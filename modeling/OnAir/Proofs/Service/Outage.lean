import OnAir.Proofs.Channel.Outage
import OnAir.Proofs.Service.Calls

/-!
# Outages in the calls of the services

Whatever call is made, an outage of the store ends it in one and the same failure, which nothing else
ends in, and no call keeps a connection.
-/

namespace OnAir

open Act (Triple)
open Channel (ServiceError)
open Store (Aside Reports)

variable {w : World}

-- -----------------------------------------------------------------------------
-- Publishers
-- -----------------------------------------------------------------------------

namespace Ingest

variable {name key value url ftlId : RawText}

def Error.IsOutage (e : Error) : Prop :=
  e = .service (.failure .store)

theorem service_isOutage (e : ServiceError) : (Error.service e).IsOutage ↔ e.IsOutage := by
  rw [Error.IsOutage, ServiceError.IsOutage, Error.service.injEq]

theorem refuse_aside {α : Type} : Aside Error.IsOutage (refuse : Act Error α) w :=
  .fail (by simp [Error.IsOutage])

theorem lookUp_reports {column : Channel.Column} :
    Reports [value] Error.IsOutage (lookUp column value) w := by
  refine (Channel.Registry.find_reports.map _).handle fun e v => ?_
  cases e with
  | notFound => exact Triple.pure ⟨.refl v, Channel.not_isOutage_notFound⟩
  | conflict | unavailable | unknownColumn | raised =>
    exact Triple.fail ⟨.refl v, (service_isOutage _).trans (Channel.plain_isOutage _)⟩

theorem byKey_reports : Reports [name] Error.IsOutage (byKey name key) w := by
  refine lookUp_reports.bind ?_
  rintro ⟨auth, secret⟩ _
  refine Aside.bind (.ofExcept fun e herror => ?_) fun key _ => ?_
  · cases hproper : key.proper with
    | ok text => rw [hproper] at herror; cases herror
    | error broken =>
      rw [hproper] at herror
      cases herror
      simp [Error.IsOutage]
  · cases auth with
    | none => exact refuse_aside
    | some auth =>
      simp only
      split
      · exact .pure _
      · exact refuse_aside

def sought (url : RawText) : List RawText :=
  match credentials url with
  | .ok (name, _) => [name]
  | .error _ => []

theorem byUrl_reports : Reports (sought url) Error.IsOutage (byUrl url) w := by
  rw [sought, byUrl]
  cases credentials url with
  | error e =>
    exact .of_aside (Triple.of_run_error rfl ⟨.refl w, by simp [Error.IsOutage]⟩)
  | ok found => exact byKey_reports

theorem byChallenge_reports {nonce digest : Bytes} :
    Reports [ftlId] Error.IsOutage (byChallenge ftlId nonce digest) w := by
  refine lookUp_reports.bind ?_
  rintro ⟨auth, secret⟩ _
  cases auth with
  | none => exact refuse_aside
  | some auth =>
    simp only
    split
    · exact .pure _
    · exact (Aside.note _ _).bind fun _ _ => refuse_aside

end Ingest

-- -----------------------------------------------------------------------------
-- Viewers
-- -----------------------------------------------------------------------------

namespace Directory

variable {name : RawText}

theorem orderedRows_reports : Reports [] ServiceError.IsOutage orderedRows w :=
  (Channel.serving_reports Channel.Registry.liveness_reports).bind fun _ _ =>
    .bind (.look _) fun _ _ => .pure _

theorem listLive_reports : Reports [] ServiceError.IsOutage listLive w :=
  orderedRows_reports.bind fun _ _ => .pure _

theorem list_reports {thumbBase liveBase : String} :
    Reports [] ServiceError.IsOutage (list thumbBase liveBase) w :=
  orderedRows_reports.bind fun _ _ => .bind (.look _) fun _ _ => .pure _

theorem thumbnail_reports : Reports [name] ServiceError.IsOutage (thumbnail name) w :=
  Channel.Registry.thumbnail_reports.mapError
    (Channel.serviceError_isOutage (fun e => by cases e <;> simp) fun _ => rfl)

theorem putThumbnail_reports {picture : Bytes} :
    Reports [name] ServiceError.IsOutage (putThumbnail name picture) w :=
  (Channel.serving_reports Channel.Registry.putThumbnail_reports).bind fun _ _ => .note _ _

end Directory

-- -----------------------------------------------------------------------------
-- Calls
-- -----------------------------------------------------------------------------

namespace Service

def OwnerCall.texts (who : RawText) : OwnerCall → List RawText
  | list | setOwnerAnnounce _ => [who]
  | create name | setAnnounce name _ | delete name => [who, name]

def Call.texts : Call → List RawText
  | owner who call => call.texts who
  | byKey name _ => [name]
  | byUrl url => Ingest.sought url
  | byChallenge ftlId _ _ => [ftlId]
  | listLive | list .. => []
  | thumbnail name | putThumbnail name _ => [name]

theorem OwnerCall.act_reports (publishDir : String) (who : RawText) (call : OwnerCall) :
    Reports (call.texts who) ServiceError.IsOutage (call.act publishDir who) w := by
  cases call with
  | list => exact .map _ Channel.Service.list_reports
  | create name => exact .map _ Channel.Service.create_reports
  | setAnnounce name announce => exact .map _ Channel.Service.setAnnounce_reports
  | delete name => exact .map _ Channel.Service.delete_reports
  | setOwnerAnnounce announce => exact .map _ Channel.Service.setOwnerAnnounce_reports

theorem Call.act_reports (publishDir : String) (call : Call) :
    Reports call.texts Ingest.Error.IsOutage (call.act publishDir) w := by
  have hservice := Ingest.service_isOutage
  cases call with
  | owner who call => exact .mapError (call.act_reports publishDir who) hservice
  | byKey name key => exact .map _ Ingest.byKey_reports
  | byUrl url => exact .map _ Ingest.byUrl_reports
  | byChallenge ftlId nonce digest => exact .map _ Ingest.byChallenge_reports
  | listLive => exact .map _ (.mapError Directory.listLive_reports hservice)
  | list thumbBase liveBase => exact .map _ (.mapError Directory.list_reports hservice)
  | thumbnail name => exact .map _ (.mapError Directory.thumbnail_reports hservice)
  | putThumbnail name picture => exact .map _ (.mapError Directory.putThumbnail_reports hservice)

end Service
end OnAir
