import OnAir.Login.Flow
import OnAir.Proofs.World.Alike

/-!
# Logins do not touch the store

Whatever a flow does, and whatever the identity provider answers, happens away from the store: over
worlds that differ in the store alone a login ends alike.
-/

namespace OnAir

open Act (Alike Ambient Quiet)

variable {R : World → World → Prop}

-- -----------------------------------------------------------------------------
-- The provider
-- -----------------------------------------------------------------------------

namespace Provider

theorem transmit_alike (hR : Quiet R) {stage : Stage} {endpoint : Url.Endpoint}
    {request : Request} : Alike R (transmit stage endpoint request) := by
  refine Alike.bind (.ofExcept _) fun _ =>
    Alike.bind (.change fun _ _ h => hR.send request h) fun _ => Alike.bind ?_ fun reply => ?_
  · cases stage with
    | token => exact .look fun _ _ h => congrArg Script.token (hR.provider h)
    | user => exact .look fun _ _ h => congrArg Script.user (hR.provider h)
  · cases reply with
    | fault f => exact .fail _
    | response r => exact .ofExcept _

theorem Client.exchange_alike (hR : Quiet R) (client : Client) (code : RawText) :
    Alike R (client.exchange code) :=
  Alike.bind (.ofExcept _) fun _ => Alike.bind (.ofExcept _) fun _ =>
    (transmit_alike hR).bind fun _ => Alike.bind (.ofExcept _) fun _ =>
      (hR.note _ _).bind fun _ => .pure _

theorem Client.profile_alike (hR : Quiet R) (client : Client) (token : Json) :
    Alike R (client.profile token) :=
  Alike.bind (.ofExcept _) fun _ => Alike.bind (.ofExcept _) fun _ =>
    (transmit_alike hR).bind fun _ => .ofExcept _

end Provider

-- -----------------------------------------------------------------------------
-- The flow
-- -----------------------------------------------------------------------------

namespace Login.Flow

open Seal (CookieChange Sealer)

variable {α : Type} {consumed : List CookieChange} {remote : String}

theorem requireConfigured_alike (flow : Flow) (cookies : List CookieChange) :
    Alike R (flow.requireConfigured cookies) := by
  rw [requireConfigured]
  cases flow.sealer with
  | none => exact .fail _
  | some sealer =>
    simp only
    split
    · exact .pure sealer
    · exact .fail _

theorem sealCookie_alike (hR : Quiet R) {sealer : Sealer} {name : String} {value : Json}
    {lifetime : Int} : Alike R (sealCookie sealer name value lifetime) :=
  hR.now.bind fun _ => .ofExcept _

theorem initiate_alike (hR : Ambient R) (flow : Flow) : Alike R flow.initiate :=
  (requireConfigured_alike flow []).bind fun _ => ((hR.bytes 9).map _).bind fun _ =>
    (sealCookie_alike hR.quiet).bind fun _ => .pure _

theorem mismatch_alike (hR : Quiet R) {reason : String} :
    Alike R (mismatch consumed remote reason : Act Error α) :=
  (hR.note _ _).bind fun _ => .fail _

theorem consulting_alike (hR : Quiet R) {f : Failure} {act : Act Provider.Error α}
    (hact : Alike R act) : Alike R (consulting f consumed remote act) := by
  refine hact.handle fun e => ?_
  cases e with
  | refused r => exact (hR.note _ _).bind fun _ => .fail _
  | endpoint | header | foreign | unknownScheme | host | charset | tooDeep | surrogate =>
    exact .fail _

theorem checkState_alike (hR : Quiet R) (flow : Flow) {sealer : Sealer}
    {state stateCookie : Option RawText} :
    Alike R (flow.checkState sealer state stateCookie consumed remote) := by
  refine .ite (hR.now.bind fun now => ?_) (mismatch_alike hR)
  cases sealer.unseal (stateCookie.getD "") flow.stateCookie now with
  | error e => exact .ite (mismatch_alike hR) (.fail _)
  | ok expected =>
    simp only
    split
    · exact .fail _
    · exact .pure _
    · exact mismatch_alike hR

theorem callback_alike (hR : Quiet R) (flow : Flow) (code state stateCookie : Option RawText)
    (remote : String) : Alike R (flow.callback code state stateCookie remote) := by
  refine (requireConfigured_alike flow _).bind fun sealer => ?_
  refine Alike.ite ((Alike.fail _).bind fun _ => ?_) ?_
  all_goals exact (checkState_alike hR flow).bind fun _ =>
    (consulting_alike hR (flow.provider.exchange_alike hR _)).bind fun token =>
      (consulting_alike hR (flow.provider.profile_alike hR token)).bind fun user =>
        (hR.note _ _).bind fun _ => (sealCookie_alike hR).bind fun _ => .pure _

theorem callback_clock {w : World} (flow : Flow) (code state stateCookie : Option RawText)
    (remote : String) : (Act.run (flow.callback code state stateCookie remote) w).2.clock = w.clock :=
  (flow.callback_alike (Ambient.timeless w.clock).quiet code state stateCookie remote).keeps
    (P := fun v => v.clock = w.clock) rfl

theorem readIdentity_alike (hR : Quiet R) (flow : Flow) (loginCookie : Option RawText) :
    Alike R (flow.readIdentity loginCookie) := by
  refine hR.now.bind fun now => ?_
  split
  · exact .fail _
  · exact .pure _
  · exact .pure _

theorem requireIdentity_alike (hR : Quiet R) (flow : Flow) (loginCookie : Option RawText)
    (remote : String) : Alike R (flow.requireIdentity loginCookie remote) := by
  refine hR.now.bind fun now => ?_
  split
  · exact .fail _
  · exact (hR.note _ _).bind fun _ => .fail _
  · exact .pure _

end Login.Flow
end OnAir
