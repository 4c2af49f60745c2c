import Mathlib
import OnAir.Login.Flow
import OnAir.Proofs.Seal.Expiry
import OnAir.Proofs.World

/-!
# What the requests of a login do when they succeed

One lemma for each request, read from its success: which cookie was sealed and when, which token was
opened, and what the provider said in between.
-/

namespace OnAir

-- -----------------------------------------------------------------------------
-- The provider
-- -----------------------------------------------------------------------------

namespace Provider

theorem transmit_clock {stage : Stage} {endpoint : Url.Endpoint} {request : Request}
    {r : Response} {w w' : World} (h : (transmit stage endpoint request).run w = (.ok r, w')) :
    w'.clock = w.clock := by
  simp only [transmit, Act.bind_ok, Act.ofExcept_ok, Act.change_ok, Act.look_ok] at h
  obtain ⟨_, _, ⟨-, rfl⟩, _, _, rfl, reply, _, ⟨-, rfl⟩, h⟩ := h
  cases reply with
  | fault f => simp at h
  | response r' =>
    obtain ⟨-, rfl⟩ := Act.ofExcept_ok.mp h
    rfl

theorem exchange_clock {client : Client} {code : RawText} {token : Json} {w w' : World}
    (h : (client.exchange code).run w = (.ok token, w')) : w'.clock = w.clock := by
  simp only [Client.exchange, Act.bind_ok, Act.ofExcept_ok, Act.note_ok, Act.pure_ok] at h
  obtain ⟨_, _, ⟨-, rfl⟩, _, _, ⟨-, rfl⟩, _, _, hsent, _, _, ⟨-, rfl⟩, _, _, rfl, -, rfl⟩ := h
  have hclock := transmit_clock hsent
  exact hclock

theorem profile_clock {client : Client} {token : Json} {user : Login.Identity} {w w' : World}
    (h : (client.profile token).run w = (.ok user, w')) : w'.clock = w.clock := by
  simp only [Client.profile, Act.bind_ok, Act.ofExcept_ok] at h
  obtain ⟨_, _, ⟨-, rfl⟩, _, _, ⟨-, rfl⟩, _, _, hsent, -, rfl⟩ := h
  exact transmit_clock hsent

def Client.user (client : Client) (code : RawText) : Act Error Login.Identity := do
  client.profile (← client.exchange code)

end Provider

namespace Login

open Seal (CookieChange Sealer)

-- -----------------------------------------------------------------------------
-- Identities and states
-- -----------------------------------------------------------------------------

theorem Identity.isExact_toJson (identity : Identity) : identity.toJson.isExact = true :=
  rfl

theorem Identity.depth_toJson_lt (identity : Identity) :
    identity.toJson.depth < Json.depthLimit := by
  simp [toJson, Json.depth, Json.fieldsDepth, Json.depthLimit]

theorem Identity.ofJson?_toJson (identity : Identity) :
    Identity.ofJson? identity.toJson = .ok identity := by
  rfl

theorem Identity.ofJson?_str (s : RawText) (identity : Identity) :
    Identity.ofJson? (.str s) ≠ .ok identity := by
  intro h
  cases h

def stateAt (w : World) : String :=
  String.ofList (Base64.encode Base64.urlSafe
    ((List.range 9).map fun k => w.random.byteAt (w.random.drawn + k)))

theorem newState_run {ε : Type} (w : World) :
    (newState : Act ε String).run w
      = (.ok (stateAt w), { w with random := { w.random with drawn := w.random.drawn + 9 } }) :=
  rfl

theorem stateAt_ne_empty (w : World) : stateAt w ≠ "" := by
  intro h
  have := congrArg String.toList h
  simp [stateAt, List.range_succ_eq_map, Base64.encode] at this

-- -----------------------------------------------------------------------------
-- Requests
-- -----------------------------------------------------------------------------

namespace Flow

variable {flow : Flow} {w w' : World}

theorem stateMatches_ok {expected : Json} {state : Option RawText} {e : String}
    (he : expected = .str (.text e)) (h : stateMatches expected state = .ok true) :
    state.getD "" = .text e := by
  subst he
  obtain ⟨_, hproper, h⟩ := exceptBind_ok.mp h
  cases hproper
  obtain ⟨given, hgiven, h⟩ := exceptBind_ok.mp h
  cases hstate : state.getD "" with
  | broken codes =>
    rw [hstate] at hgiven
    cases hgiven
  | text given' =>
    rw [hstate] at hgiven
    cases hgiven
    have hsame := of_decide_eq_true (Except.ok.inj h)
    rw [Utf8.ofString_injective hsame]

theorem requireConfigured_ok {cookies : List CookieChange} {sealer : Sealer}
    (h : (flow.requireConfigured cookies).run w = (.ok sealer, w')) :
    flow.sealer = some sealer ∧ w = w' := by
  unfold requireConfigured at h
  split at h
  · next hs =>
    split at h
    · obtain ⟨rfl, rfl⟩ := Act.pure_ok.mp h
      exact ⟨hs, rfl⟩
    · simp at h
  · simp at h

theorem sealCookie_ok {sealer : Sealer} {name : String} {value : Json} {lifetime : ℤ}
    {change : CookieChange}
    (h : (sealCookie sealer name value lifetime).run w = (.ok change, w')) :
    ∃ token, sealer.seal value lifetime name w.clock = .ok token
      ∧ change = ⟨name, token, lifetime⟩ ∧ w = w' := by
  simp only [sealCookie, Act.bind_ok, Act.now_ok, Act.ofExcept_ok, mapError_ok] at h
  obtain ⟨_, _, ⟨rfl, rfl⟩, hcookie, rfl⟩ := h
  simp only [Sealer.cookie] at hcookie
  cases hseal : sealer.seal value lifetime name w.clock with
  | error e => rw [hseal] at hcookie; cases hcookie
  | ok token =>
    rw [hseal] at hcookie
    cases hcookie
    exact ⟨token, rfl, rfl, rfl⟩

theorem initiate_ok {step : LoginStep} (h : flow.initiate.run w = (.ok step, w')) :
    ∃ sealer token, flow.sealer = some sealer
      ∧ sealer.seal (.str (stateAt w)) stateLifetime flow.stateCookie w.clock = .ok token
      ∧ step = ⟨.pending, some (flow.provider.authorizationUrl (stateAt w)),
          [⟨flow.stateCookie, token, stateLifetime⟩]⟩ := by
  simp only [initiate, Act.bind_ok, Act.pure_ok, newState_run] at h
  obtain ⟨sealer, _, hconf, _, _, hstate, change, _, hcookie, rfl, -⟩ := h
  obtain ⟨hsealer, rfl⟩ := requireConfigured_ok hconf
  cases hstate
  obtain ⟨token, hseal, rfl, -⟩ := sealCookie_ok hcookie
  exact ⟨sealer, token, hsealer, hseal, rfl⟩

theorem mismatch_ok {α : Type} {consumed : List CookieChange} {remote reason : String} {a : α} :
    ¬(mismatch consumed remote reason).run w = (.ok a, w') := by
  simp [mismatch, Act.bind_ok]

theorem consulting_ok {α : Type} {f : Failure} {consumed : List CookieChange} {remote : String}
    {act : Act Provider.Error α} {a : α}
    (h : (consulting f consumed remote act).run w = (.ok a, w')) : act.run w = (.ok a, w') := by
  rcases Act.handle_ok.mp h with h | ⟨e, v, -, h⟩
  · exact h
  · exfalso
    cases e <;> simp [Act.bind_ok] at h

theorem checkState_ok {sealer : Sealer} {state stateCookie : Option RawText}
    {consumed : List CookieChange} {remote : String} {u : Unit}
    (h : (flow.checkState sealer state stateCookie consumed remote).run w = (.ok u, w')) :
    w = w' ∧ ∃ expected,
      sealer.unseal (stateCookie.getD "") flow.stateCookie w.clock = .ok expected
        ∧ stateMatches expected state = .ok true := by
  simp only [checkState] at h
  by_cases htoken : (stateCookie.getD "").isEmpty = true
  · rw [if_pos htoken, if_neg (by decide)] at h
    exact absurd h mismatch_ok
  rw [if_neg htoken, if_pos (by decide)] at h
  simp only [Act.bind_ok, Act.now_ok] at h
  obtain ⟨_, _, ⟨rfl, rfl⟩, h⟩ := h
  split at h
  · split at h
    · exact absurd h mismatch_ok
    · simp at h
  · next expected hopen =>
    split at h
    · simp at h
    · next hmatch =>
      obtain ⟨-, rfl⟩ := Act.pure_ok.mp h
      exact ⟨rfl, expected, hopen, hmatch⟩
    · exact absurd h mismatch_ok

theorem callback_ok {code state stateCookie : Option RawText} {remote : String} {step : LoginStep}
    (h : (flow.callback code state stateCookie remote).run w = (.ok step, w')) :
    ∃ sealer expected user token, flow.sealer = some sealer
      ∧ sealer.unseal (stateCookie.getD "") flow.stateCookie w.clock = .ok expected
      ∧ stateMatches expected state = .ok true
      ∧ ((flow.provider.user (code.getD "")).run w).1 = .ok user
      ∧ sealer.seal user.toJson loginLifetime flow.loginCookie w.clock = .ok token
      ∧ step = ⟨.authenticated, some "/", [CookieChange.clear flow.stateCookie,
          ⟨flow.loginCookie, token, loginLifetime⟩]⟩ := by
  simp only [callback, Act.bind_ok] at h
  obtain ⟨sealer, _, hconf, h⟩ := h
  obtain ⟨hsealer, rfl⟩ := requireConfigured_ok hconf
  split at h
  · simp [Act.bind_ok] at h
  simp only [Act.bind_ok, Act.pure_ok, Act.note_ok] at h
  obtain ⟨_, _, hcheck, answer, v, hexchange, user, v', hprofile, _, _, rfl, change, _, hcookie,
    rfl, -⟩ := h
  obtain ⟨rfl, expected, hopen, hmatch⟩ := checkState_ok hcheck
  have hexchange := consulting_ok hexchange
  have hprofile := consulting_ok hprofile
  obtain ⟨token, hseal, rfl, -⟩ := sealCookie_ok hcookie
  have huser : (flow.provider.user (code.getD "")).run w = (.ok user, v') :=
    Act.bind_ok.mpr ⟨answer, v, hexchange, hprofile⟩
  have hclock : v'.clock = w.clock :=
    (Provider.profile_clock hprofile).trans (Provider.exchange_clock hexchange)
  refine ⟨sealer, expected, user, token, hsealer, hopen, hmatch, by rw [huser], ?_, rfl⟩
  rw [← hclock]
  exact hseal

theorem unsealIdentity_some {loginCookie : Option RawText} {now : ℤ} {identity : Identity}
    (h : flow.unsealIdentity loginCookie now = .ok (some identity)) :
    ∃ sealer payload, flow.sealer = some sealer
      ∧ sealer.unseal (loginCookie.getD "") flow.loginCookie now = .ok payload
      ∧ Identity.ofJson? payload = .ok identity := by
  simp only [unsealIdentity] at h
  split at h
  · cases h
  · next sealer hsealer =>
    split at h
    · split at h <;> cases h
    · next payload hopen =>
      split at h
      · cases h
      · next identity' hidentity =>
        split at h
        · cases h
        · cases h
          exact ⟨sealer, payload, hsealer, hopen, hidentity⟩

theorem unsealIdentity_named {loginCookie : Option RawText} {now : ℤ} {identity : Identity}
    (h : flow.unsealIdentity loginCookie now = .ok (some identity)) :
    identity.isAnonymous = false := by
  simp only [unsealIdentity] at h
  split at h
  · cases h
  · split at h
    · split at h <;> cases h
    · split at h
      · cases h
      · next other hidentity =>
        cases hanonymous : other.isAnonymous with
        | true =>
          rw [hanonymous] at h
          cases h
        | false =>
          rw [hanonymous] at h
          cases h
          exact hanonymous

theorem requireIdentity_ok {loginCookie : Option RawText} {remote : String} {x : Identity}
    (h : (flow.requireIdentity loginCookie remote).run w = (.ok x, w')) :
    flow.unsealIdentity loginCookie w.clock = .ok (some x) := by
  simp only [requireIdentity, Act.bind_ok, Act.now_ok] at h
  obtain ⟨_, _, ⟨rfl, rfl⟩, h⟩ := h
  split at h
  · simp at h
  · simp [Act.bind_ok] at h
  · next identity hsome =>
    obtain ⟨rfl, -⟩ := Act.pure_ok.mp h
    exact hsome

theorem readIdentity_ok {loginCookie : Option RawText} {x : Identity}
    (h : (flow.readIdentity loginCookie).run w = (.ok x, w')) (hx : x.isAnonymous = false) :
    ∃ identity, flow.unsealIdentity loginCookie w.clock = .ok (some identity)
      ∧ x = flow.withAvatar identity := by
  simp only [readIdentity, Act.bind_ok, Act.now_ok] at h
  obtain ⟨_, _, ⟨rfl, rfl⟩, h⟩ := h
  split at h
  · simp at h
  · obtain ⟨rfl, -⟩ := Act.pure_ok.mp h
    cases hx
  · next identity hsome =>
    obtain ⟨rfl, -⟩ := Act.pure_ok.mp h
    exact ⟨identity, hsome, rfl⟩

end Flow
end Login
end OnAir
