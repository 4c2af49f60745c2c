import OnAir.App.Serve
import OnAir.Proofs.Login.Ambient
import OnAir.Proofs.Service.Beside

/-!
# Requests over two stores side by side

Endpoints of the login answer alike over any stores, all others over equal tables, whatever strikes
when a connection is released.
-/

namespace OnAir.App

open Act (Alike Ambient Quiet SameEnd run)
open Http (Endpoint Request Response)
open Ingest (Attempt)
open Store (Beside Public Reads Side Steady Tables)

section
variable {R : World → World → Prop} (app : App) (request : Request)

-- -----------------------------------------------------------------------------
-- Logins and admission
-- -----------------------------------------------------------------------------

theorem withCookies_alike (hR : Quiet R) (changes : List Seal.CookieChange)
    (response : Response) : Alike R (app.withCookies changes response) := by
  refine hR.now.bind fun now => ?_
  split
  · exact .pure _
  · exact .fail _

theorem initiate_alike (hR : Ambient R) : Alike R app.initiate :=
  ((app.flow.initiate_alike hR).mapError _).bind fun _ => app.withCookies_alike hR.quiet _ _

theorem callback_alike (hR : Quiet R) : Alike R (app.callback request) := by
  refine (app.flow.callback_alike hR _ _ _ _).attempt.bind fun result => ?_
  split
  · exact app.withCookies_alike hR _ _
  · exact (hR.enter _).bind fun _ => app.withCookies_alike hR _ _
  · exact .fail _

theorem logout_alike (hR : Quiet R) : Alike R app.logout :=
  app.withCookies_alike hR _ _

theorem user_alike (hR : Quiet R) : Alike R (app.user request) := by
  refine ((app.flow.readIdentity_alike hR _).mapError _).bind fun identity => ?_
  exact .ite ((Alike.fail _).bind fun _ => .pure _) (.pure _)

theorem owner_alike (hR : Quiet R) : Alike R (app.owner request) :=
  (app.flow.requireIdentity_alike hR _ _).mapError _

theorem engine_alike (hR : Quiet R) : Alike R (app.engine request) :=
  .ite (.pure _) ((hR.note _ _).bind fun _ => .fail _)

theorem submitted_alike {α β : Type} {gate : Act RequestError β}
    {reader : Validation.Fields → Validation.Checked α} {act : β → α → Act RequestError Response}
    (hgate : Alike R gate) (hact : ∀ who record, Alike R (act who record)) :
    Alike R (submitted request gate reader act) :=
  Alike.bind (.ofExcept _) fun _ => hgate.bind fun who =>
    Alike.bind (.ofExcept _) fun record => hact who record

end

-- -----------------------------------------------------------------------------
-- Endpoints
-- -----------------------------------------------------------------------------

section
variable {T : Tables → Tables → Prop} {R : World → World → Prop} (hR : Side T R) (app : App)
  (request : Request)
include hR

theorem admitPublisher_alike (h : ∀ attempt : Attempt, Reads T attempt.finding) :
    Alike R (app.admitPublisher request) := by
  refine submitted_alike request (app.engine_alike request hR.toAmbient.quiet) fun _ attempt => ?_
  refine Alike.bind (Alike.mapError _ (.ite ?_ ?_)) fun _ => .pure _
  · exact (Attempt.key _ attempt.key).act_alike hR (h _)
  · exact (Attempt.url _).act_alike hR (h _)

theorem admitChallenger_alike (h : ∀ attempt : Attempt, Reads T attempt.finding) :
    Alike R (app.admitChallenger request) :=
  submitted_alike request (app.engine_alike request hR.toAmbient.quiet) fun _ attempt =>
    (((Attempt.challenge _ _ attempt.digest).act_alike hR (h _)).mapError _).bind fun _ => .pure _

theorem handle_alike_of (hsteady : ∀ who, Steady T who) (hpublic : Public T) {endpoint : Endpoint}
    (hlist : endpoint = .listChannels → ∀ who, Reads T (·.channelsOf who))
    (hadmits : endpoint = .admitPublisher ∨ endpoint = .admitChallenger →
      ∀ attempt : Attempt, Reads T attempt.finding) : Alike R (app.handle endpoint request) := by
  have howner := app.owner_alike request hR.toAmbient.quiet
  have hengine := app.engine_alike request hR.toAmbient.quiet
  cases endpoint with
  | initiate => exact app.initiate_alike hR.toAmbient
  | callback => exact app.callback_alike request hR.toAmbient.quiet
  | logout => exact app.logout_alike hR.toAmbient.quiet
  | user => exact app.user_alike request hR.toAmbient.quiet
  | listChannels =>
    exact howner.bind fun owner =>
      ((Channel.Service.list_alike hR fun who _ => hlist rfl who).mapError _).bind fun _ => .pure _
  | createChannel =>
    exact submitted_alike request howner fun owner channel =>
      ((Channel.Service.create_alike hR fun who _ => hsteady who).mapError _).bind fun _ => .pure _
  | setAnnounce name =>
    exact submitted_alike request howner fun owner change =>
      ((Channel.Service.setAnnounce_alike hR fun who _ => hsteady who).mapError _).bind
        fun _ => .pure _
  | deleteChannel name =>
    exact howner.bind fun owner =>
      ((Channel.Service.delete_alike hR fun who _ => hsteady who).mapError _).bind fun _ => .pure _
  | setOwnerAnnounce =>
    exact submitted_alike request howner fun owner change =>
      ((Channel.Service.setOwnerAnnounce_alike hR fun who _ => hsteady who).mapError _).bind
        fun _ => .pure _
  | directory => exact ((Directory.list_alike hR hpublic _ _).mapError _).bind fun _ => .pure _
  | thumbnail name =>
    exact ((Directory.thumbnail_alike hR hpublic name).mapError _).bind fun _ => .pure _
  | admitPublisher => exact admitPublisher_alike hR app request (hadmits (.inl rfl))
  | admitChallenger => exact admitChallenger_alike hR app request (hadmits (.inr rfl))
  | putThumbnail name =>
    exact hengine.bind fun _ =>
      ((Directory.putThumbnail_alike hR hpublic name _).mapError _).bind fun _ => .pure _
  | health => exact .pure _

omit hR in
theorem respond_alike_of
    (h : ∀ endpoint, Http.destination request.method request.path = .endpoint endpoint →
      Alike R (app.handle endpoint request)) : Alike R (app.respond request) := by
  unfold respond
  cases hdestination : Http.destination request.method request.path with
  | endpoint endpoint => exact h endpoint hdestination
  | wrongMethod allowed => exact .pure _
  | elsewhere path => exact .pure _
  | nowhere => exact .pure _

end

-- -----------------------------------------------------------------------------
-- Answers
-- -----------------------------------------------------------------------------

section
variable {R : World → World → Prop} {app : App} {request : Request} {w v : World}

theorem serve_sameEnd (hR : Quiet R)
    (h : SameEnd R (run (app.respond request) (w.noting [request.arrival]))
      (run (app.respond request) (v.noting [request.arrival]))) :
    SameEnd R (app.serve request w) (app.serve request v) := by
  obtain ⟨hresult, hworld⟩ := h
  refine ⟨congrArg (app.answer request) hresult, ?_⟩
  unfold serve
  dsimp only
  rw [hresult, hR.runtime hworld]
  exact hR.noting _ hworld

theorem serve_sameEnd_of_alike (hR : Quiet R) (halike : Alike R (app.respond request))
    (h : R w v) : SameEnd R (app.serve request w) (app.serve request v) :=
  serve_sameEnd hR (halike.sameEnd (hR.noting _ h))

theorem serve_beside (app : App) (request : Request) (h : Beside Eq w v) :
    (app.serve request w).1 = (app.serve request v).1
      ∧ Beside Eq (app.serve request w).2 (app.serve request v).2 := by
  have halike : Alike (Beside Eq) (app.respond request) :=
    app.respond_alike_of request fun _ _ => handle_alike_of (Beside.side Eq) app request
      (fun who => (Store.Blind.eq who).steady) .eq (fun _ _ => .eq _) fun _ _ => .eq _
  obtain ⟨hresult, hworld⟩ := serve_sameEnd_of_alike (Beside.side Eq).toAmbient.quiet halike h
  exact ⟨hresult, hworld⟩

end
end OnAir.App
