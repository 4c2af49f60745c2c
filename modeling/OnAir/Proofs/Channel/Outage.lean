import OnAir.Channel.Service
import OnAir.Proofs.Channel.Operations
import OnAir.Proofs.Store.Outage

/-!
# Outages in the registry and in the service of channels

The registry has one kind of error for outages and the service has one failure for them, whatever
the operation. Neither is used for anything else.
-/

namespace OnAir.Channel

open Act (Triple)
open Store (Aside Endures Reports StoreError checkStorable execute)

variable {w : World} {texts : List RawText} {α : Type}

-- -----------------------------------------------------------------------------
-- Sessions
-- -----------------------------------------------------------------------------

def RegistryError.IsOutage (e : RegistryError) : Prop :=
  ∃ operation, e = .unavailable operation

theorem meaning_isOutage (operation : String) (e : StoreError) :
    (meaning operation e).IsOutage ↔ e.family = .outage := by
  rw [meaning]
  cases hfamily : e.family <;> simp [RegistryError.IsOutage]

theorem not_isOutage_notFound {key : String} : ¬(RegistryError.notFound key).IsOutage := by
  simp [RegistryError.IsOutage]

theorem session_reports {operation : String} {body : Act StoreError α}
    (hbody : ∀ v, Endures texts body v) :
    Reports texts RegistryError.IsOutage (session operation body) w := by
  refine (Store.withConnection_reports hbody).handle fun e v => ?_
  have hmeaning := meaning_isOutage operation e
  rw [interpret]
  cases hfamily : e.family with
  | uniqueViolation | other =>
    rw [meaning, hfamily] at hmeaning
    exact Triple.fail ⟨.refl v, hmeaning⟩
  | outage =>
    rw [meaning, hfamily] at hmeaning
    exact Triple.of_run_error rfl ⟨⟨⟨rfl, rfl, rfl, rfl⟩, rfl, rfl⟩, hmeaning⟩

namespace Registry

variable {owner name value : RawText}

-- -----------------------------------------------------------------------------
-- Operations of the registry
-- -----------------------------------------------------------------------------

theorem channelsOf_reports : Reports [owner] RegistryError.IsOutage (channelsOf owner) w :=
  (session_reports fun _ => Store.select_endures).bind fun _ _ => .pure _

theorem find_reports {column : Column} :
    Reports [value] RegistryError.IsOutage (find column value) w := by
  refine (session_reports fun _ => Store.select_endures).bind fun found _ => ?_
  cases found with
  | none => exact .fail not_isOutage_notFound
  | some => exact .pure _

theorem thumbnail_reports : Reports [name] RegistryError.IsOutage (thumbnail name) w := by
  refine (session_reports fun _ => Store.select_endures).bind fun found _ => ?_
  cases found with
  | none => exact .fail not_isOutage_notFound
  | some => exact .pure _

theorem setAnnounce_reports {announce : Bool} :
    Reports [owner, name] RegistryError.IsOutage (setAnnounce owner name announce) w := by
  refine (session_reports fun _ => Store.execute_endures).bind fun tag _ => ?_
  split
  · exact .fail not_isOutage_notFound
  · exact .pure _

theorem setOwnerAnnounce_reports {announce : Bool} :
    Reports [owner] RegistryError.IsOutage (setOwnerAnnounce owner announce) w :=
  (session_reports fun _ => Store.execute_endures).bind fun _ _ => .pure _

theorem delete_reports : Reports [owner, name] RegistryError.IsOutage (delete owner name) w :=
  (session_reports fun _ => Store.execute_endures).bind fun _ _ => .pure _

theorem putThumbnail_reports {picture : Bytes} :
    Reports [name] RegistryError.IsOutage (putThumbnail name picture) w :=
  (session_reports fun _ => Store.execute_endures).bind fun _ _ => .pure _

theorem datedThumbs_endures : Endures [] datedThumbs w := by
  refine .tells (Store.logged_tells _ _) (Triple.bind Store.send_endures fun _ v hv => ?_)
  refine Triple.bind (Q := fun _ v' => v = v') (.look rfl) ?_
  rintro rows _ rfl
  refine Triple.bind (Q := fun _ v' => v = v') (.look rfl) ?_
  rintro now _ rfl
  rcases hcheck : checkTimes (rows.map (·.updated)) now with e | u
  · refine Triple.of_run_error (e := .undated e) ?_ ⟨hv.1.1, .own hv.1.2 rfl ?_⟩
    · rw [Act.run_bind, checkDates_run, hcheck]
      rfl
    · simp [StoreError.undated]
  · refine Triple.of_run (a := (rows, now)) ?_ hv
    rw [Act.run_bind, checkDates_run, hcheck]
    rfl

theorem liveness_reports : Reports [] RegistryError.IsOutage liveness w :=
  (session_reports fun _ => datedThumbs_endures).bind fun _ _ => .pure _

theorem texts_owner {e : Store.TextError} (h : [owner].forM checkStorable = .error e) :
    [owner, name].forM checkStorable = .error e := by
  simp only [List.forM_eq_forM, List.forM_cons, List.forM_nil] at h ⊢
  cases howner : checkStorable owner with
  | ok u => rw [howner] at h; cases h
  | error e' => rw [howner] at h; exact h

theorem texts_secret {secret : String} (hsecret : checkStorable (.text secret) = .ok ()) :
    [owner, name, .text secret].forM checkStorable = [owner, name].forM checkStorable := by
  simp only [List.forM_eq_forM, List.forM_cons, List.forM_nil, hsecret]
  rfl

/-- The two statements of an insertion. The first one sends the owner alone, and any tables allow
what it does; so whichever of the two texts is refused, it is the first that cannot be stored. -/
theorem insert_endures {secret : String} (hsecret : checkStorable (.text secret) = .ok ()) :
    Endures [owner, name] (insert owner name secret) w := by
  refine Triple.bind (Triple.mono_error (Store.execute_struck fun t _ => t.addUser owner.filled)
    ?_) ?_
  · rintro e w' ⟨hsame, hstruck | ⟨hcalm, refused, howner, rfl⟩⟩
    · exact ⟨hsame, .fault hstruck⟩
    · exact ⟨hsame, .text hcalm (texts_owner howner) (Store.Refusal.error_family _ _ _)⟩
  · rintro _ v ⟨⟨hsame, hcalm⟩, -⟩
    have hsecond : Endures [owner, name] (execute (addChannelQuery owner name secret)
        "INSERT 0" fun t _ => (t.addChannel? owner.filled name.filled secret).map (·, 1)) v :=
      Store.execute_endures.of_texts (texts_secret hsecret)
    refine Triple.bind (Triple.mono_error hsecond ?_) ?_
    · intro e w' h
      exact ⟨hsame.trans h.1, h.2.of_unstruck hcalm⟩
    · rintro _ w' ⟨h, htexts⟩
      exact Triple.pure ⟨⟨hsame.trans h.1, hcalm.trans h.2⟩, htexts⟩

theorem create_reports :
    Reports [owner, name] RegistryError.IsOutage (create owner name) w := by
  refine Reports.after (newSecret_run w) ⟨⟨rfl, rfl, rfl, rfl⟩, rfl, rfl⟩ ?_
  refine (session_reports fun _ => Store.transaction_endures fun _ =>
    insert_endures (checkStorable_secretAt _)).bind fun _ _ => ?_
  exact (Aside.note _ _).bind fun _ _ => .pure _

end Registry

-- -----------------------------------------------------------------------------
-- The service
-- -----------------------------------------------------------------------------

def ServiceError.IsOutage (e : ServiceError) : Prop :=
  e = .failure .store

/-- An operation's own failures are none of the store, and do not stand in for an outage. -/
theorem serviceError_isOutage {own : RegistryError → Option Failure}
    (hown : ∀ e, own e ≠ some .store) (hnone : ∀ operation, own (.unavailable operation) = none)
    (e : RegistryError) : (serviceError own e).IsOutage ↔ e.IsOutage := by
  rw [ServiceError.IsOutage, RegistryError.IsOutage]
  have hfailure := hown e
  cases hsome : own e with
  | some f =>
    have hfail : serviceError own e = .failure f := by simp [serviceError, hsome]
    rw [hfail]
    refine iff_of_false ?_ ?_
    · rintro ⟨⟩
      exact hfailure hsome
    · rintro ⟨operation, rfl⟩
      rw [hnone operation] at hsome
      cases hsome
  | none => cases e <;> simp [serviceError, hsome]

theorem plain_isOutage (e : RegistryError) :
    (serviceError (fun _ => none) e).IsOutage ↔ e.IsOutage := by
  refine serviceError_isOutage ?_ ?_ e <;> simp

theorem serving_reports {act : Act RegistryError α}
    (h : Reports texts RegistryError.IsOutage act w) :
    Reports texts ServiceError.IsOutage (serving act) w :=
  h.mapError plain_isOutage

namespace Service

variable {publishDir : String} {owner name : RawText}

theorem list_reports : Reports [owner] ServiceError.IsOutage (list publishDir owner) w :=
  (serving_reports Registry.channelsOf_reports).bind fun _ _ => .pure _

theorem create_reports :
    Reports [owner, name] ServiceError.IsOutage (create publishDir owner name) w := by
  refine (Registry.create_reports.handle fun e v => ?_).bind fun _ _ => .pure _
  cases e with
  | conflict =>
    refine Triple.of_run_error rfl ⟨⟨⟨rfl, rfl, rfl, rfl⟩, rfl, rfl⟩, ?_⟩
    simp [ServiceError.IsOutage, RegistryError.IsOutage]
  | notFound | unavailable | unknownColumn | raised =>
    exact Triple.fail ⟨.refl v, plain_isOutage _⟩

theorem setAnnounce_reports {announce : Bool} :
    Reports [owner, name] ServiceError.IsOutage (setAnnounce owner name announce) w :=
  Registry.setAnnounce_reports.mapError
    (serviceError_isOutage (fun e => by cases e <;> simp) fun _ => rfl)

theorem delete_reports :
    Reports [owner, name] ServiceError.IsOutage (delete owner name) w :=
  (serving_reports Registry.delete_reports).bind fun _ _ => .note _ _

theorem setOwnerAnnounce_reports {announce : Bool} :
    Reports [owner] ServiceError.IsOutage (setOwnerAnnounce owner announce) w :=
  serving_reports Registry.setOwnerAnnounce_reports

end Service
end OnAir.Channel
