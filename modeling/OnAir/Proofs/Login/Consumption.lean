import OnAir.Proofs.Login.Completion
import OnAir.Proofs.Provider.Foreseen
import OnAir.Proofs.Seal.Authenticity

/-!
# The state cookie is consumed

A callback that is refused tells the browser to forget the state, and so does one that succeeds. It
says nothing only if it ends in a way that nobody foresaw: the provider answered with something
unforeseen, or the user it named cannot be sealed. A state cookie that is missing, does not verify,
or was sealed by the flow itself is no reason for that.
-/

namespace OnAir.Login

open Act (Triple run)
open Instant (horizon)
open Provider (Client)
open Seal (CookieChange Sealer signedText? signingKey)

/-- What a browser may present as the cookie of a state: nothing, something that does not verify, or
something sealed by the flow, for whatever purpose, at a second that is a date. -/
inductive Presented (flow : Flow) : Option RawText → Prop
  | absent : Presented flow none
  | unverified {token : String} (h : ∀ sealer, flow.sealer = some sealer →
      signedText? (signingKey sealer.secret flow.stateCookie) (Utf8.ofString token) = none) :
      Presented flow (some (.text token))
  | sealed {sealer : Sealer} {value : Json} {lifetime : ℤ} {purpose token : String} {clock : Instant}
      (hsealer : flow.sealer = some sealer) (hexact : value.isExact = true)
      (hdate : Calendar.check (Instant.wholeSeconds clock).toNat = .ok ())
      (hseal : sealer.seal value lifetime purpose clock = .ok token) :
      Presented flow (some (.text token))

/-- What came back is text, or nothing. -/
def Legible (given : Option RawText) : Prop :=
  ∃ text : String, given.getD "" = text

theorem legible_map (given : Option String) : Legible (given.map .text) := by
  cases given <;> exact ⟨_, rfl⟩

def changes? : Except Error LoginStep → Option (List CookieChange)
  | .ok step => some step.cookies
  | .error (.failed _ cookies) => some cookies
  | .error _ => none

def Refused (cookies : List CookieChange) (e : Error) : Prop :=
  ∃ f, f.status = 400 ∧ e = .failed f cookies

/-- The end of a callback first of all consumes the state cookie. -/
def Consumes (flow : Flow) (result : Except Error LoginStep) : Prop :=
  ∃ rest, changes? result = some (.clear flow.stateCookie :: rest)

namespace Flow

variable {flow : Flow} {sealer : Sealer} {w : World} {consumed : List CookieChange}
  {remote : String}

-- -----------------------------------------------------------------------------
-- The state
-- -----------------------------------------------------------------------------

theorem unseal_sealed {value : Json} {lifetime : ℤ} {purpose token : String} {clock : Instant}
    (hexact : value.isExact = true)
    (hdate : Calendar.check (Instant.wholeSeconds clock).toNat = .ok ())
    (hseal : sealer.seal value lifetime purpose clock = .ok token) (other : String)
    (now : Instant) :
    (∃ e, sealer.unseal token other now = .error e ∧ e.isRefusal = true)
      ∨ sealer.unseal token other now = .ok value := by
  cases htext : signedText? (signingKey sealer.secret other) (Utf8.ofString token) with
  | none =>
    refine .inl ⟨_, Seal.unseal_of_signedText?_none htext now, ?_⟩
    split <;> rfl
  | some text =>
    -- the text stands before the last point, whichever key it was verified with
    obtain ⟨_, hcut⟩ := Seal.cutLast?_of_signedText? (Seal.signedText?_of_seal_ok hseal)
    obtain ⟨_, hcut'⟩ := Seal.cutLast?_of_signedText? htext
    cases hcut.symm.trans hcut'
    obtain ⟨-, -, -, -, hsecond, -⟩ := Seal.seal_ok hseal
    have hopen := Seal.openText_signedText (Seal.sealable_of_seal_ok hexact hseal) hdate
      (by simp only [Double.natPow_eq] at hsecond ⊢; omega) now
    rw [Seal.unseal_of_signedText? htext, hopen]
    split
    · exact .inl ⟨.expired, rfl, rfl⟩
    · exact .inr rfl

theorem unseal_presented {stateCookie : Option RawText} (h : Presented flow stateCookie)
    (hsealer : flow.sealer = some sealer) (now : Instant) :
    (∃ e, sealer.unseal (stateCookie.getD "") flow.stateCookie now = .error e
        ∧ e.isRefusal = true)
      ∨ ∃ value, sealer.unseal (stateCookie.getD "") flow.stateCookie now = .ok value
        ∧ value.isBroken = false := by
  cases h with
  | absent => exact .inl ⟨.missing, rfl, rfl⟩
  | @unverified token hnone =>
    refine .inl ⟨_, Seal.unseal_of_signedText?_none (hnone sealer hsealer) now, ?_⟩
    split <;> rfl
  | @sealed sealer' value lifetime purpose token clock hsealer' hexact hdate hseal =>
    cases hsealer.symm.trans hsealer'
    obtain ⟨-, -, hproper, -⟩ := Seal.seal_ok hseal
    exact (unseal_sealed hexact hdate hseal _ now).imp_right fun hopen => ⟨value, hopen, hproper⟩

theorem stateMatches_proper {expected : Json} {state : Option RawText} {text : String}
    (h : expected.isBroken = false) (hstate : state.getD "" = text) :
    ∃ b, stateMatches expected state = .ok b := by
  cases expected with
  | str s =>
    cases s with
    | text s => exact ⟨_, stateMatches_text hstate⟩
    | broken codes => cases h
  | _ => exact ⟨false, rfl⟩

theorem requireConfigured_ends :
    Triple (flow.requireConfigured consumed) w
      (fun sealer w' => w = w' ∧ flow.sealer = some sealer ∧ flow.provider.configured = true)
      (fun e _ => Refused consumed e) := by
  unfold requireConfigured
  split
  · split
    · exact .pure ⟨rfl, ‹_›, ‹_›⟩
    · exact .fail ⟨_, rfl, rfl⟩
  · exact .fail ⟨_, rfl, rfl⟩

theorem mismatch_ends {α : Type} {reason : String} {Q : α → World → Prop} :
    Triple (mismatch consumed remote reason : Act Error α) w Q
      (fun e _ => Refused consumed e) :=
  Triple.of_run_error rfl ⟨_, rfl, rfl⟩

theorem checkState_ends {state stateCookie : Option RawText} (h : Presented flow stateCookie)
    (hstate : Legible state) (hsealer : flow.sealer = some sealer) :
    Triple (flow.checkState sealer state stateCookie consumed remote) w
      (fun _ w' => w = w' ∧ ∃ expected,
        sealer.unseal (stateCookie.getD "") flow.stateCookie w.clock = .ok expected
          ∧ stateMatches expected state = .ok true)
      (fun e _ => Refused consumed e) := by
  simp only [checkState]
  by_cases htoken : (stateCookie.getD "").isEmpty = true
  · rw [if_pos htoken, if_neg (by decide)]
    exact mismatch_ends
  rw [if_neg htoken, if_pos (by decide)]
  refine Triple.bind (Q := fun now w' => now = w.clock ∧ w = w') (Triple.of_run rfl ⟨rfl, rfl⟩) ?_
  rintro _ _ ⟨rfl, rfl⟩
  rcases unseal_presented h hsealer w.clock with ⟨e, hopen, hrefusal⟩ | ⟨value, hopen, hproper⟩
  · simp only [hopen, hrefusal, if_true]
    exact mismatch_ends
  · obtain ⟨text, hstate⟩ := hstate
    obtain ⟨b, hmatch⟩ := stateMatches_proper hproper hstate
    simp only [hopen, hmatch]
    cases b with
    | true => exact Triple.pure ⟨rfl, value, rfl, hmatch⟩
    | false => exact mismatch_ends

theorem consulting_ends {α : Type} {f : Failure} {act : Act Provider.Error α}
    {Q : α → World → Prop} (hf : f.status = 400)
    (hact : Triple act w Q fun e _ => e.isRefusal = true) :
    Triple (consulting f consumed remote act) w Q (fun e _ => Refused consumed e) := by
  refine Triple.handle hact fun e v he => ?_
  cases e with
  | refused r => exact Triple.of_run_error rfl ⟨f, hf, rfl⟩
  | endpoint | header | foreign | unknownScheme | host | charset | tooDeep | surrogate => cases he

theorem sealCookie_ends (name : String) {user : Identity} {E : Error → World → Prop}
    (hproper : user.toJson.isBroken = false)
    (hstart : 0 ≤ w.clock.wholeSeconds) (hend : w.clock.wholeSeconds < Nat.pow 2 64) :
    Triple (sealCookie sealer name user.toJson loginLifetime) w
      (fun cookie _ => cookie.name = name) E := by
  obtain ⟨token, hseal⟩ : ∃ token, sealer.seal user.toJson loginLifetime name w.clock = .ok token :=
    ⟨_, Seal.seal_eq (Nat.zero_le _) (by decide) user.depth_toJson_lt hproper hstart hend⟩
  exact Triple.of_run (sealCookie_run hseal) rfl

-- -----------------------------------------------------------------------------
-- The callback
-- -----------------------------------------------------------------------------

/-- The callback gets through to the provider: somebody can log in, there is a code, and the state
that came back is the one in the cookie. -/
structure Admits (flow : Flow) (code state stateCookie : Option RawText) (w : World) : Prop where
  configured : flow.provider.configured = true
  code : (code.getD "").isEmpty = false
  state : ∃ sealer expected, flow.sealer = some sealer
    ∧ sealer.unseal (stateCookie.getD "") flow.stateCookie w.clock = .ok expected
    ∧ stateMatches expected state = .ok true

/-- The provider is one that answers with nothing unforeseen and names users by text, at a time at
which they can be sealed. -/
structure Civil (flow : Flow) (w : World) : Prop where
  served : flow.provider.Served w.provider
  user : ∀ content user, w.provider.user.content? = some content →
    Provider.readProfile content = .ok user → user.toJson.isBroken = false
  start : 0 ≤ w.clock.wholeSeconds
  stop : w.clock.wholeSeconds < Nat.pow 2 64

/-- If the provider is civil where the callback gets through to it, then the callback ends with a
login or with a failure, and the state cookie is consumed. -/
theorem callback_ends {code state stateCookie : Option RawText} (remote : String)
    (hcode : Legible code) (hstate : Legible state) (h : Presented flow stateCookie)
    (hcivil : flow.Admits code state stateCookie w → flow.Civil w) :
    Triple (flow.callback code state stateCookie remote) w
      (fun step _ => ∃ cookie, cookie.name = flow.loginCookie
        ∧ step = ⟨.authenticated, some "/", [.clear flow.stateCookie, cookie]⟩)
      (fun e _ => Refused [.clear flow.stateCookie] e) := by
  simp only [callback]
  refine Triple.bind requireConfigured_ends ?_
  rintro sealer _ ⟨rfl, hsealer, hconfigured⟩
  by_cases hempty : (code.getD "").isEmpty = true
  · rw [if_pos hempty]
    exact Triple.of_run_error rfl ⟨_, rfl, rfl⟩
  rw [if_neg hempty]
  refine Triple.bind (checkState_ends h hstate hsealer) ?_
  rintro _ _ ⟨rfl, expected, hopen, hmatch⟩
  have hc := hcivil ⟨hconfigured, Bool.eq_false_iff.mpr hempty, sealer, expected, hsealer, hopen,
    hmatch⟩
  obtain ⟨text, hcode⟩ := hcode
  rw [hcode]
  refine Triple.bind (consulting_ends rfl (Provider.exchange_foreseen hc.served _)) ?_
  rintro token v ⟨htoken, hv⟩
  have hserved : flow.provider.Served v.provider := hv.provider ▸ hc.served
  refine Triple.bind (consulting_ends rfl (Provider.profile_foreseen hserved htoken)) ?_
  rintro user v' ⟨⟨content, hcontent, huser⟩, hv'⟩
  rw [hv.provider] at hcontent
  have hclock : v'.clock = w.clock := hv'.clock.trans hv.clock
  -- a note about the user stands between the profile and the seal
  refine Triple.bind (Q := fun _ w' => w'.clock = w.clock) (Triple.of_run rfl hclock)
    fun _ v hv => ?_
  refine Triple.bind (sealCookie_ends flow.loginCookie (hc.user content user hcontent huser)
    (hv ▸ hc.start) (hv ▸ hc.stop)) ?_
  exact fun cookie _ hname => .pure ⟨cookie, hname, rfl⟩

theorem callback_consumes {code state stateCookie : Option RawText} (remote : String)
    (hcode : Legible code) (hstate : Legible state) (h : Presented flow stateCookie)
    (hcivil : flow.Admits code state stateCookie w → flow.Civil w) :
    Consumes flow (run (flow.callback code state stateCookie remote) w).1 := by
  rcases hrun : run (flow.callback code state stateCookie remote) w with ⟨e | step, w'⟩
  · obtain ⟨f, -, rfl⟩ := (callback_ends remote hcode hstate h hcivil).error hrun
    exact ⟨[], rfl⟩
  · obtain ⟨cookie, -, rfl⟩ := (callback_ends remote hcode hstate h hcivil).ok hrun
    exact ⟨[cookie], rfl⟩

-- -----------------------------------------------------------------------------
-- A token that cannot be shown
-- -----------------------------------------------------------------------------

theorem exists_presented (hsealer : flow.sealer = some sealer) (state : String) {clock : ℤ}
    (hnonneg : 0 ≤ clock) (h : clock < horizon) :
    ∃ token : String, Presented flow (some (.text token))
      ∧ sealer.unseal token flow.stateCookie clock = .ok (.str state) := by
  obtain ⟨token, hseal⟩ := Seal.exists_seal sealer (.str state) stateLifetime flow.stateCookie rfl
    (Nat.zero_le _) (by simp [Json.depth, Json.depthLimit]) (by decide) hnonneg h
  have hsecond := Instant.wholeSeconds_lt h
  have halive : Seal.isExpired stateLifetime (Instant.wholeSeconds clock).toNat clock = false :=
    (Seal.isExpired_wholeSeconds hnonneg h h).mpr ⟨by decide, by simp only [stateLifetime]; omega⟩
  refine ⟨token, .sealed hsealer rfl (Calendar.check_ok (by omega)) hseal, ?_⟩
  rw [Seal.unseal_of_seal_ok rfl h hseal, halive]
  rfl

/-- If the token cannot be written into a header, the callback ends in a way that nobody foresaw. -/
theorem callback_unwritable {code cookie : RawText} {state : String} {token : Json}
    {e : Provider.HeaderError} {v : World} (remote : String) (hsealer : flow.sealer = some sealer)
    (hconfigured : flow.provider.configured = true) (hcode : code.isEmpty = false)
    (hopen : sealer.unseal cookie flow.stateCookie w.clock = .ok (.str state))
    (hexchange : run (flow.provider.exchange code) w = (.ok token, v))
    (huserUrl : ∃ endpoint, Url.Endpoint.read flow.provider.userUrl.toList = .ok endpoint)
    (hbearer : Provider.bearerAuthorization token = .error e) :
    (run (flow.callback (some code) (some (.text state)) (some cookie) remote) w).1
      = .error (.provider (.header e)) := by
  obtain ⟨endpoint, huserUrl⟩ := huserUrl
  have hprofile (f : Failure) (consumed : List CookieChange) :
      run (consulting f consumed remote (flow.provider.profile token)) v
        = (.error (.provider (.header e)), v) := by
    simp only [consulting, Act.run_handle, Client.profile, huserUrl, hbearer]
    rfl
  have hchecked (consumed : List CookieChange) :
      run (flow.checkState sealer (some (.text state)) (some cookie) consumed remote) w
        = (.ok (), w) := checkState_run rfl hopen
  simp only [callback, Option.getD_some, hcode, Bool.false_eq_true, if_false, Act.run_bind,
    requireConfigured_run hsealer hconfigured, hchecked, consulting_run hexchange, hprofile]

end Flow
end OnAir.Login
