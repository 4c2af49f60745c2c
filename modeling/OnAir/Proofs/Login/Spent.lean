import OnAir.Proofs.Login.Steps
import OnAir.Proofs.World.Triple

/-!
# State cookies that are spent

Once a login is through, the place of the state cookie is empty, or it holds the login itself where
one name serves for both cookies. Nobody comes back with such a cookie: the callback is refused
before the provider hears of it.
-/

namespace OnAir.Login

open Act (Refused Triple)
open Seal (CookieChange Sealer)

/-- What is left in the place of the state cookie after a login: nothing, or the login. -/
inductive Spent (flow : Flow) : Option RawText → Prop
  | absent : Spent flow none
  | login {sealer : Sealer} {user : Identity} {start : Instant} {token : String}
    (hnames : flow.loginCookie = flow.stateCookie) (hsealer : flow.sealer = some sealer)
    (hseal : sealer.seal user.toJson loginLifetime flow.loginCookie start = .ok token) :
    Spent flow (some (.text token))

variable {flow : Flow} {sealer : Sealer} {cookie : Option RawText} {clock : Instant}

theorem Spent.unseal_ne (h : Spent flow cookie) (hsealer : flow.sealer = some sealer)
    (state : RawText) :
    sealer.unseal (cookie.getD "") flow.stateCookie clock ≠ .ok (.str state) := by
  intro hopen
  cases h with
  | absent => cases hopen
  | @login sealer' user start token hnames hsealer' hseal =>
    cases hsealer.symm.trans hsealer'
    rw [Option.getD_some, ← hnames] at hopen
    cases Seal.eq_of_unseal (Identity.isExact_toJson user) hseal hopen

namespace Flow

variable {α : Type} {consumed : List CookieChange} {code state : Option RawText} {remote : String}

theorem mismatch_refused (reason : String) :
    Refused clock (mismatch consumed remote reason : Act Error α) :=
  .bind_ok (.note _ _) (.fail _)

theorem exists_str_of_stateMatches {expected : Json} (h : stateMatches expected state = .ok true) :
    ∃ s, expected = .str s := by
  cases expected with
  | str s => exact ⟨s, rfl⟩
  | null | bool | int | float | arr | obj => cases h

theorem checkState_refused
    (h : ∀ s, sealer.unseal (cookie.getD "") flow.stateCookie clock ≠ .ok (.str s)) :
    Refused clock (flow.checkState sealer state cookie consumed remote) := by
  simp only [checkState]
  by_cases htoken : (cookie.getD "").isEmpty = true
  · rw [if_pos htoken, if_neg (by decide)]
    exact mismatch_refused _
  rw [if_neg htoken, if_pos (by decide)]
  refine .bind_ok .now ?_
  split
  · split
    · exact mismatch_refused _
    · exact .fail _
  next expected hopen =>
    split
    · exact .fail _
    next hmatch =>
      obtain ⟨s, rfl⟩ := exists_str_of_stateMatches hmatch
      exact absurd hopen (h s)
    · exact mismatch_refused _

theorem callback_refused (h : Spent flow cookie) :
    Refused clock (flow.callback code state cookie remote) := by
  cases hsealer : flow.sealer with
  | none =>
    have hnobody (cookies : List CookieChange) :
        flow.requireConfigured cookies = Act.fail (.failed .notConfigured cookies) := by
      simp only [requireConfigured, hsealer]
    rw [callback, hnobody]
    exact (Refused.fail _).bind _
  | some sealer =>
    have hchecked (consumed : List CookieChange) :
        Refused clock (flow.checkState sealer state cookie consumed remote) :=
      checkState_refused fun s => h.unseal_ne hsealer s
    simp only [callback, requireConfigured, hsealer]
    split
    · refine .bind_ok (.pure _) ?_
      split
      · exact (Refused.fail _).bind _
      · exact Refused.bind (hchecked _) _
    · exact (Refused.fail _).bind _

-- -----------------------------------------------------------------------------
-- Failures
-- -----------------------------------------------------------------------------

def Carries (cookies : List CookieChange) (e : Error) : Prop :=
  ∀ f changes, e = .failed f changes → changes = cookies

theorem carries_failed (f : Failure) : Carries consumed (.failed f consumed) := by
  rintro _ _ ⟨⟩
  rfl

theorem carries_none {e : Error} (h : ∀ f changes, e ≠ .failed f changes) : Carries consumed e :=
  fun f changes he => absurd he (h f changes)

theorem mismatch_carries {w : World} {reason : String} {Q : α → World → Prop} :
    Triple (mismatch consumed remote reason : Act Error α) w Q fun e _ => Carries consumed e :=
  Triple.of_run_error rfl (carries_failed _)

theorem consulting_carries {w : World} {f : Failure} (act : Act Provider.Error α) :
    Triple (consulting f consumed remote act) w (fun _ _ => True) fun e _ => Carries consumed e := by
  refine Triple.handle (E := fun _ _ => True) (Triple.of_world (P := fun _ => True) trivial) ?_
  intro e v _
  cases e with
  | refused r => exact Triple.of_run_error rfl (carries_failed f)
  | endpoint | header | foreign | unknownScheme | host | charset | tooDeep | surrogate =>
    exact Triple.fail (carries_none (by simp))

theorem checkState_carries {w : World} :
    Triple (flow.checkState sealer state cookie consumed remote) w (fun _ _ => True)
      fun e _ => Carries consumed e := by
  simp only [checkState]
  by_cases htoken : (cookie.getD "").isEmpty = true
  · rw [if_pos htoken, if_neg (by decide)]
    exact mismatch_carries
  rw [if_neg htoken, if_pos (by decide)]
  refine Triple.bind (Q := fun _ _ => True) (Triple.of_run rfl trivial) fun now v _ => ?_
  split
  · split
    · exact mismatch_carries
    · exact Triple.fail (carries_none (by simp))
  · split
    · exact Triple.fail (carries_none (by simp))
    · exact Triple.pure trivial
    · exact mismatch_carries

theorem callback_carries {w : World} :
    Triple (flow.callback code state cookie remote) w (fun _ _ => True)
      fun e _ => Carries [.clear flow.stateCookie] e := by
  simp only [callback]
  refine Triple.bind (Q := fun _ _ => True) ?_ fun sealer v _ => ?_
  · unfold requireConfigured
    split
    · split
      · exact Triple.pure trivial
      · exact Triple.fail (carries_failed _)
    · exact Triple.fail (carries_failed _)
  split
  · exact Triple.of_run_error rfl (carries_failed _)
  refine Triple.bind checkState_carries fun _ v _ => ?_
  refine Triple.bind (consulting_carries _) fun token v _ => ?_
  refine Triple.bind (consulting_carries _) fun user v _ => ?_
  refine Triple.bind (Q := fun _ _ => True) (Triple.of_run rfl trivial) fun _ v _ => ?_
  refine Triple.bind (Q := fun _ _ => True) ?_ fun _ v _ => Triple.pure trivial
  refine Triple.bind (Q := fun _ _ => True) (Triple.of_run rfl trivial) fun now v _ => ?_
  refine Triple.ofExcept (fun _ _ => trivial) fun e he => ?_
  obtain ⟨e, rfl⟩ : ∃ e', e = .sealing e' := by
    cases hcookie : sealer.cookie flow.loginCookie user.toJson loginLifetime now with
    | error e' => rw [hcookie] at he; cases he; exact ⟨e', rfl⟩
    | ok change => rw [hcookie] at he; cases he
  exact carries_none (by simp)

end Flow
end OnAir.Login
