import OnAir.Proofs.App.Beside
import OnAir.Proofs.Service.Calls

/-!
# What requests ask of the services

A request makes one call of a service or none. Before the call nothing happens but in the log and at
the identity provider, and after it nothing at all: the request ends as the call has ended.
-/

namespace OnAir.App

open Act (Alike Ambient Quiet run)
open Http (Endpoint Request Response)
open Service (Answer Call OwnerCall)

/-- Nothing has happened between the two worlds but in the log and at the identity provider. -/
def Quietly (w v : World) : Prop :=
  ∃ log sent, v = { w with log, sent }

/-- How a request ends: without a call, having drawn bytes at most, or as the one call it makes. -/
inductive Asks (app : App) (w : World) : Except RequestError Response × World → Prop
  | nothing (result : Except RequestError Response) (log : List Log.Entry) (random : RandomSource)
    (sent : List Provider.Request) : Asks app w (result, { w with log, random, sent })
  | answered {call : Call} {answer : Answer} {v v' : World} {response : Response}
    (hv : Quietly w v) (hrun : run (call.act app.settings.rtmpBase) v = (.ok answer, v'))
    (hstatus : response.status = 200) : Asks app w (.ok response, v')
  | refused {call : Call} {e : Ingest.Error} {v v' : World} (hv : Quietly w v)
    (hrun : run (call.act app.settings.rtmpBase) v = (.error e, v')) :
    Asks app w (.error (.ofIngest e), v')

variable {app : App} {w v : World} {α β : Type}

theorem Quietly.refl (w : World) : Quietly w w :=
  ⟨w.log, w.sent, rfl⟩

theorem Quietly.quiet (w : World) : Quiet (fun u v => u = v ∧ Quietly w u) := by
  refine .same ?_ ?_
  · rintro _ log ⟨_, sent, rfl⟩
    exact ⟨log, sent, rfl⟩
  · rintro _ sent ⟨log, _, rfl⟩
    exact ⟨log, sent, rfl⟩

namespace Asks

-- -----------------------------------------------------------------------------
-- Before the call
-- -----------------------------------------------------------------------------

theorem of_ambient {act : Act RequestError Response}
    (hact : ∀ {R : World → World → Prop}, Ambient R → Alike R act) : Asks app w (run act w) := by
  have hambient : Ambient fun u v => u = v ∧
      ∃ log random sent, u = { w with log, random, sent } := by
    refine .same ?_ ?_ ?_
    · rintro _ log ⟨_, random, sent, rfl⟩
      exact ⟨log, random, sent, rfl⟩
    · rintro _ random ⟨log, _, sent, rfl⟩
      exact ⟨log, random, sent, rfl⟩
    · rintro _ sent ⟨log, random, _, rfl⟩
      exact ⟨log, random, sent, rfl⟩
  obtain ⟨log, random, sent, hend⟩ := (hact hambient).keeps ⟨w.log, w.random, w.sent, rfl⟩
  have hasks : Asks app w ((run act w).1, { w with log, random, sent }) :=
    .nothing _ log random sent
  rwa [← hend] at hasks

theorem after {gate : Act RequestError α} {f : α → Act RequestError Response}
    (hgate : Alike (fun u v => u = v ∧ Quietly w u) gate) (hv : Quietly w v)
    (hf : ∀ a v, Quietly w v → Asks app w (run (f a) v)) : Asks app w (run (gate >>= f) v) := by
  have hend := hgate.keeps hv
  rw [Act.run_bind]
  rcases hrun : run gate v with ⟨e | a, v'⟩ <;> rw [hrun] at hend
  · obtain ⟨log, sent, rfl⟩ := hend
    exact .nothing (.error e) log w.random sent
  · exact hf a v' hend

theorem submitted {request : Request} {gate : Act RequestError β}
    {reader : Validation.Fields → Validation.Checked α} {act : β → α → Act RequestError Response}
    (hgate : Alike (fun u v => u = v ∧ Quietly w u) gate) (hv : Quietly w v)
    (hact : ∀ who record v, Quietly w v → Asks app w (run (act who record) v)) :
    Asks app w (run (App.submitted request gate reader act) v) :=
  after (.ofExcept _) hv fun _ _ hv => after hgate hv fun who _ hv =>
    after (.ofExcept _) hv fun record v hv => hact who record v hv

-- -----------------------------------------------------------------------------
-- From the call on
-- -----------------------------------------------------------------------------

section
variable {answer : α → Response}

theorem of_ingest {act : Act Ingest.Error α} {c : Call} {f : α → Answer} (hv : Quietly w v)
    (hcall : c.act app.settings.rtmpBase = f <$> act) (hanswer : ∀ a, (answer a).status = 200) :
    Asks app w (run (act.mapError .ofIngest >>= fun a => pure (answer a)) v) := by
  rcases hrun : run act v with ⟨e | a, v'⟩
  · have hend : run (c.act app.settings.rtmpBase) v = (.error e, v') := by
      rw [hcall, Act.run_map, hrun]
      rfl
    rw [Act.run_bind, Act.run_mapError, hrun]
    exact .refused hv hend
  · have hend : run (c.act app.settings.rtmpBase) v = (.ok (f a), v') := by
      rw [hcall, Act.run_map, hrun]
      rfl
    rw [Act.run_bind, Act.run_mapError, hrun]
    exact .answered hv hend (hanswer a)

theorem of_service {act : Act Channel.ServiceError α} {c : Call} {f : α → Answer}
    (hv : Quietly w v) (hcall : c.act app.settings.rtmpBase = f <$> act.mapError .service)
    (hanswer : ∀ a, (answer a).status = 200) :
    Asks app w (run (act.mapError .ofService >>= fun a => pure (answer a)) v) := by
  have hsame : act.mapError RequestError.ofService
      = (act.mapError Ingest.Error.service).mapError RequestError.ofIngest := by
    refine Act.ext fun u => ?_
    simp only [Act.run_mapError]
    cases (run act u).1 <;> rfl
  rw [hsame]
  exact of_ingest hv hcall hanswer

theorem of_owner {act : Act Channel.ServiceError α} {who : RawText} {c : OwnerCall}
    {f : α → Answer} (hv : Quietly w v) (hcall : c.act app.settings.rtmpBase who = f <$> act)
    (hanswer : ∀ a, (answer a).status = 200) :
    Asks app w (run (act.mapError .ofService >>= fun a => pure (answer a)) v) := by
  refine of_service (c := .owner who c) (f := f) hv ?_ hanswer
  refine Act.ext fun u => ?_
  rw [Call.act, hcall, Act.run_mapError, Act.run_map, Act.run_map, Act.run_mapError]
  cases (run act u).1 <;> rfl

end
end Asks

-- -----------------------------------------------------------------------------
-- Endpoints
-- -----------------------------------------------------------------------------

theorem handle_asks (app : App) (request : Request) (endpoint : Endpoint) (w : World) :
    Asks app w (run (app.handle endpoint request) w) := by
  have howner := app.owner_alike request (Quietly.quiet w)
  have hengine := app.engine_alike request (Quietly.quiet w)
  have hw := Quietly.refl w
  cases endpoint with
  | initiate => exact .of_ambient app.initiate_alike
  | callback => exact .of_ambient fun hR => app.callback_alike request hR.quiet
  | logout => exact .of_ambient fun hR => app.logout_alike hR.quiet
  | user => exact .of_ambient fun hR => app.user_alike request hR.quiet
  | listChannels =>
    refine .after howner hw fun owner v hv => ?_
    exact .of_owner (c := .list) hv rfl fun _ => rfl
  | createChannel =>
    refine .submitted howner hw fun owner channel v hv => ?_
    exact .of_owner (c := .create channel.name) hv rfl fun _ => rfl
  | setAnnounce name =>
    refine .submitted howner hw fun owner change v hv => ?_
    exact .of_owner (c := .setAnnounce name change.announce) hv rfl fun _ => rfl
  | deleteChannel name =>
    refine .after howner hw fun owner v hv => ?_
    exact .of_owner (c := .delete name) hv rfl fun _ => rfl
  | setOwnerAnnounce =>
    refine .submitted howner hw fun owner change v hv => ?_
    exact .of_owner (c := .setOwnerAnnounce change.announce) hv rfl fun _ => rfl
  | directory =>
    exact .of_service (c := .list app.settings.thumbBaseUrl app.settings.liveBaseUrl) hw rfl
      fun _ => rfl
  | thumbnail name => exact .of_service (c := .thumbnail name) hw rfl fun _ => rfl
  | admitPublisher =>
    refine .submitted hengine hw fun _ attempt v hv => ?_
    simp only
    split
    · exact .of_ingest (c := .byKey _ _) hv rfl fun _ => rfl
    · exact .of_ingest (c := .byUrl _) hv rfl fun _ => rfl
  | admitChallenger =>
    refine .submitted hengine hw fun _ attempt v hv => ?_
    exact .of_ingest (c := .byChallenge attempt.ftlId attempt.nonce attempt.digest) hv rfl
      fun _ => rfl
  | putThumbnail name =>
    refine .after hengine hw fun _ v hv => ?_
    exact .of_service (c := .putThumbnail name request.body) hv rfl fun _ => rfl
  | health => exact .of_ambient fun _ => .pure _

theorem respond_asks (app : App) (request : Request) (w : World) :
    Asks app w (run (app.respond request) w) := by
  unfold respond
  cases Http.destination request.method request.path with
  | endpoint endpoint => exact app.handle_asks request endpoint w
  | wrongMethod allowed => exact .of_ambient fun _ => .pure _
  | elsewhere path => exact .of_ambient fun _ => .pure _
  | nowhere => exact .of_ambient fun _ => .pure _

end OnAir.App
