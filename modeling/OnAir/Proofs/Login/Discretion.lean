import OnAir.Proofs.Login.Consumption
import OnAir.Proofs.Provider.Parameters

/-!
# A callback checks before it calls

The provider hears nothing of a callback until somebody can log in, there is a code, and the state that
came back is the one in the cookie. Then it hears the code once and, if it gave a token for it, the
token once. What the browser is told depends on the first stage that fails, and on nothing else: not
on the provider's words, not on the code, not on the reason why the state was refused.
-/

namespace OnAir

open Act (run)
open Provider (Foreseen profileRequest)
open Instant (horizon)
open Seal (CookieChange SealError Sealer UnsealError)

-- -----------------------------------------------------------------------------
-- Half a surrogate pair
-- -----------------------------------------------------------------------------

namespace Json

theorem scanString_half (start rest : List Char) :
    scanString [] start ("\\ud800\"".toList ++ rest) = .ok ([0xd800], rest) := by
  have htext : "\\ud800\"".toList ++ rest
      = '\\' :: 'u' :: 'd' :: '8' :: '0' :: '0' :: '"' :: rest := rfl
  have hunit : unit? ('d' :: '8' :: '0' :: '0' :: '"' :: rest) = some 0xd800 := rfl
  have hend : scanString [] start ('"' :: rest) = .ok ([], rest) := by
    rw [scanString.eq_def]
    rfl
  rw [htext, scanString]
  simp only [if_true, hunit]
  rw [if_neg (by decide), if_neg (by simp)]
  simp only [List.drop_succ_cons, List.drop_zero, hend]
  rfl

theorem readBytes_half :
    readBytes (Utf8.ofString "\x7b\"id\":\"4\",\"username\":\"\\ud800\"\x7d")
      = .ok (.obj [("id", .str "4"), ("username", .str (.broken [0xd800]))]) := by
  have htext : "\x7b\"id\":\"4\",\"username\":\"\\ud800\"\x7d".toList
      = '{' :: (stringText "id" ++ ':' :: (stringText "4" ++ ',' :: (stringText "username"
        ++ ':' :: '"' :: ("\\ud800\"".toList ++ ['}'])))) := by decide
  have hdocument : Encoding.document?
      (Utf8.ofString "\x7b\"id\":\"4\",\"username\":\"\\ud800\"\x7d")
      = some ("\x7b\"id\":\"4\",\"username\":\"\\ud800\"\x7d".toList, []) := by
    decide +kernel
  simp only [readBytes, hdocument, readRaw, htext]
  rw [run_open_object (by decide), run_firstName, run_name, run_str, run_cons (c := ',') rfl]
  simp only [Machine.step, ↓reduceIte]
  rw [run_name, run_cons (c := '"') rfl]
  simp only [Machine.step, takeValue, ↓reduceIte, scanString_half, Except.map]
  rw [run_cons (c := '}') rfl]
  simp only [Machine.step]
  rw [if_neg (by decide), if_pos trivial]
  simp only [run_nil]
  rfl

end Json

-- -----------------------------------------------------------------------------
-- Stages
-- -----------------------------------------------------------------------------

namespace Login.Flow

/-- The cookie opens as the state that came back; a missing state counts as empty. -/
def Recognizes (flow : Flow) (state stateCookie : Option RawText) (now : Instant) : Prop :=
  ∃ sealer, ∃ text : String, flow.sealer = some sealer ∧ state.getD "" = text
    ∧ sealer.unseal (stateCookie.getD "") flow.stateCookie now = .ok (.str text)

/-- The cookie does not open, or what it opens as is not the state. -/
inductive Mismatches (flow : Flow) (state stateCookie : Option RawText) (now : Instant) : Prop
  | refused {sealer : Sealer} {e : UnsealError} (hsealer : flow.sealer = some sealer)
    (hopen : sealer.unseal (stateCookie.getD "") flow.stateCookie now = .error e)
    (h : e.isRefusal = true) : Mismatches flow state stateCookie now
  | kind {sealer : Sealer} {value : Json} (hsealer : flow.sealer = some sealer)
    (hopen : sealer.unseal (stateCookie.getD "") flow.stateCookie now = .ok value)
    (h : ∀ s, value ≠ .str s) : Mismatches flow state stateCookie now
  | other {sealer : Sealer} {text given : String} (hsealer : flow.sealer = some sealer)
    (hopen : sealer.unseal (stateCookie.getD "") flow.stateCookie now = .ok (.str text))
    (hstate : state.getD "" = given) (h : text ≠ given) : Mismatches flow state stateCookie now

/-- The cookie opens as a string that is no text, since half of a surrogate pair stands in it, or it
opens as text and what came back is none. -/
inductive Garbled (flow : Flow) (state stateCookie : Option RawText) (now : Instant)
    (codes : List Nat) : Prop
  | cookie {sealer : Sealer} (hsealer : flow.sealer = some sealer)
    (hopen : sealer.unseal (stateCookie.getD "") flow.stateCookie now
      = .ok (.str (.broken codes))) : Garbled flow state stateCookie now codes
  | state {sealer : Sealer} {text : String} (hsealer : flow.sealer = some sealer)
    (hopen : sealer.unseal (stateCookie.getD "") flow.stateCookie now = .ok (.str text))
    (hstate : state.getD "" = .broken codes) : Garbled flow state stateCookie now codes

/-- All that is checked before the provider is turned to. -/
structure Passes (flow : Flow) (code state stateCookie : Option RawText) (now : Instant) :
    Prop where
  configured : flow.configured = true
  code : (code.getD "").isEmpty = false
  state : flow.Recognizes state stateCookie now

def refusal (flow : Flow) (f : Failure) : Except Error LoginStep :=
  .error (.failed f [.clear flow.stateCookie])

def Tells (request : Provider.Request) (client : Provider.Client) (code : RawText) : Prop :=
  ∃ text : String, code = text ∧ request.Exchanges client text

def Shows (request : Provider.Request) (token : Json) : Prop :=
  ∃ bearer endpoint, Provider.bearerAuthorization token = .ok bearer
    ∧ request = profileRequest bearer endpoint

/-- The first stage of a callback that fails, and what has been sent by then. -/
inductive FailsAt (flow : Flow) (code state stateCookie : Option RawText) (w : World) :
    Failure → List Provider.Request → Prop
  | notConfigured (h : flow.configured = false) :
    FailsAt flow code state stateCookie w .notConfigured []
  | missingCode (h : flow.configured = true) (hcode : (code.getD "").isEmpty = true) :
    FailsAt flow code state stateCookie w .missingCode []
  | stateMismatch (h : flow.configured = true) (hcode : (code.getD "").isEmpty = false)
    (hstate : flow.Mismatches state stateCookie w.clock) :
    FailsAt flow code state stateCookie w .stateMismatch []
  | exchange {reason : Provider.Refusal} {v : World} {post : Provider.Request}
    (h : flow.Passes code state stateCookie w.clock)
    (hexchange : run (flow.provider.exchange (code.getD "")) w = (.error (.refused reason), v))
    (hpost : Tells post flow.provider (code.getD "")) :
    FailsAt flow code state stateCookie w .exchange [post]
  | profile {token : Json} {reason : Provider.Refusal} {v v' : World} {post get : Provider.Request}
    (h : flow.Passes code state stateCookie w.clock)
    (hexchange : run (flow.provider.exchange (code.getD "")) w = (.ok token, v))
    (hprofile : run (flow.provider.profile token) v = (.error (.refused reason), v'))
    (hpost : Tells post flow.provider (code.getD "")) (hget : Shows get token) :
    FailsAt flow code state stateCookie w .profile [post, get]

/-- How a callback can end, and what it has sent by then: it is refused at a stage, or the provider has
named a user who is sealed into a login cookie. Two things nobody foresaw: a state is garbled, or the
user cannot be sealed. -/
inductive Ends (flow : Flow) (code state stateCookie : Option RawText) (w : World) :
    Except Error LoginStep → List Provider.Request → Prop
  | refused {f : Failure} {requests : List Provider.Request}
    (h : flow.FailsAt code state stateCookie w f requests) :
    Ends flow code state stateCookie w (flow.refusal f) requests
  | garbled {codes : List Nat} (h : flow.configured = true)
    (hcode : (code.getD "").isEmpty = false)
    (hstate : flow.Garbled state stateCookie w.clock codes) :
    Ends flow code state stateCookie w (.error (.surrogate ⟨codes⟩)) []
  | loggedIn {token : Json} {user : Identity} {v v' : World} {post get : Provider.Request}
    {sealer : Sealer} {cookie : String}
    (h : flow.Passes code state stateCookie w.clock)
    (hexchange : run (flow.provider.exchange (code.getD "")) w = (.ok token, v))
    (hprofile : run (flow.provider.profile token) v = (.ok user, v'))
    (hpost : Tells post flow.provider (code.getD "")) (hget : Shows get token)
    (hsealer : flow.sealer = some sealer)
    (hseal : sealer.seal user.toJson loginLifetime flow.loginCookie w.clock = .ok cookie) :
    Ends flow code state stateCookie w
      (.ok ⟨.authenticated, some "/",
        [.clear flow.stateCookie, ⟨flow.loginCookie, cookie, loginLifetime⟩]⟩) [post, get]
  | unsealable {token : Json} {user : Identity} {v v' : World} {post get : Provider.Request}
    {sealer : Sealer} {e : SealError}
    (h : flow.Passes code state stateCookie w.clock)
    (hexchange : run (flow.provider.exchange (code.getD "")) w = (.ok token, v))
    (hprofile : run (flow.provider.profile token) v = (.ok user, v'))
    (hpost : Tells post flow.provider (code.getD "")) (hget : Shows get token)
    (hsealer : flow.sealer = some sealer)
    (hseal : sealer.seal user.toJson loginLifetime flow.loginCookie w.clock = .error e) :
    Ends flow code state stateCookie w (.error (.sealing e)) [post, get]

/-- The cookie opens or its seal is refused; and whatever is asked of the provider, once the checks have
passed, is answered as foreseen. -/
structure Expects (flow : Flow) (code state stateCookie : Option RawText) (w : World) : Prop where
  cookie : ∀ sealer e, flow.sealer = some sealer →
    sealer.unseal (stateCookie.getD "") flow.stateCookie w.clock = .error e → e.isRefusal = true
  exchange : flow.Passes code state stateCookie w.clock →
    Foreseen (run (flow.provider.exchange (code.getD "")) w).1
  profile : flow.Passes code state stateCookie w.clock → ∀ token v,
    run (flow.provider.exchange (code.getD "")) w = (.ok token, v) →
      Foreseen (run (flow.provider.profile token) v).1

variable {flow : Flow} {sealer : Sealer} {code state stateCookie : Option RawText} {remote : String}
  {consumed : List CookieChange} {w v v' : World} {token : Json}

theorem Recognizes.not_mismatches {now : Instant} (h : flow.Recognizes state stateCookie now) :
    ¬ flow.Mismatches state stateCookie now := by
  obtain ⟨sealer, text, hsealer, hstate, hopen⟩ := h
  intro hmismatches
  cases hmismatches with
  | refused hsealer' hopen' =>
    cases hsealer.symm.trans hsealer'
    cases hopen.symm.trans hopen'
  | kind hsealer' hopen' hkind =>
    cases hsealer.symm.trans hsealer'
    cases hopen.symm.trans hopen'
    exact hkind _ rfl
  | other hsealer' hopen' hstate' hne =>
    cases hsealer.symm.trans hsealer'
    cases hopen.symm.trans hopen'
    cases hstate.symm.trans hstate'
    exact hne rfl

theorem Recognizes.not_garbled {now : Instant} {codes : List Nat}
    (h : flow.Recognizes state stateCookie now) : ¬ flow.Garbled state stateCookie now codes := by
  obtain ⟨sealer, text, hsealer, hstate, hopen⟩ := h
  intro hgarbled
  cases hgarbled with
  | cookie hsealer' hopen' =>
    cases hsealer.symm.trans hsealer'
    cases hopen.symm.trans hopen'
  | state _ _ hstate' => cases hstate.symm.trans hstate'

-- -----------------------------------------------------------------------------
-- Steps
-- -----------------------------------------------------------------------------

def redeem (flow : Flow) (sealer : Sealer) (code : RawText) (remote : String) :
    Act Error LoginStep := do
  let consumed := [CookieChange.clear flow.stateCookie]
  let token ← consulting .exchange consumed remote (flow.provider.exchange code)
  let user ← consulting .profile consumed remote (flow.provider.profile token)
  Act.note .info ("[oauth] login for user " ++ user.id.filled ++ " from " ++ remote)
  let cookie ← sealCookie sealer flow.loginCookie user.toJson loginLifetime
  return ⟨.authenticated, some "/", consumed ++ [cookie]⟩

theorem configured_iff : flow.configured = true
    ↔ ∃ sealer, flow.sealer = some sealer ∧ flow.provider.configured = true := by
  rw [configured, Bool.and_eq_true, Option.isSome_iff_exists, exists_and_right]

theorem requireConfigured_refused (h : flow.configured = false) (w : World) :
    run (flow.requireConfigured consumed) w = (.error (.failed .notConfigured consumed), w) := by
  rw [configured] at h
  rw [requireConfigured]
  cases hsealer : flow.sealer with
  | none => rfl
  | some sealer =>
    rw [hsealer, Option.isSome_some, Bool.true_and] at h
    simp only [h]
    rfl

theorem checkState_garbled {codes : List Nat} (hsealer : flow.sealer = some sealer)
    (h : flow.Garbled state stateCookie w.clock codes) :
    run (flow.checkState sealer state stateCookie consumed remote) w
      = (.error (.surrogate ⟨codes⟩), w) := by
  cases h with
  | cookie hsealer' hopen =>
    cases hsealer.symm.trans hsealer'
    rw [checkState_opened (isEmpty_of_unseal hopen), hopen]
    rfl
  | @state _ text hsealer' hopen hstate =>
    cases hsealer.symm.trans hsealer'
    have hmatch : stateMatches (.str text) state = .error ⟨codes⟩ := by
      rw [stateMatches, hstate]
      rfl
    rw [checkState_opened (isEmpty_of_unseal hopen), hopen]
    simp only [hmatch]
    rfl

theorem checkState_mismatched (consumed : List CookieChange) (remote : String)
    (hsealer : flow.sealer = some sealer) (h : flow.Mismatches state stateCookie w.clock) :
    ∃ log, run (flow.checkState sealer state stateCookie consumed remote) w
      = (.error (.failed .stateMismatch consumed), { w with log }) := by
  by_cases hempty : (stateCookie.getD "").isEmpty = true
  · simp only [checkState, if_pos hempty]
    rw [if_neg (by decide)]
    exact ⟨_, rfl⟩
  rw [checkState_opened (Bool.eq_false_iff.mpr hempty)]
  cases h with
  | refused hsealer' hopen hrefusal =>
    cases hsealer.symm.trans hsealer'
    simp only [hopen, hrefusal, if_true]
    exact ⟨_, rfl⟩
  | @kind _ value hsealer' hopen hkind =>
    cases hsealer.symm.trans hsealer'
    have hmatch : stateMatches value state = .ok false := by
      cases value with
      | str s => exact absurd rfl (hkind s)
      | _ => rfl
    simp only [hopen, hmatch]
    exact ⟨_, rfl⟩
  | @other _ text given hsealer' hopen hgiven hne =>
    cases hsealer.symm.trans hsealer'
    have hmatch : stateMatches (.str text) state = .ok false := by
      rw [stateMatches_text hgiven, decide_eq_false hne]
    simp only [hopen, hmatch]
    exact ⟨_, rfl⟩

theorem consulting_refused {α : Type} {act : Act Provider.Error α} {reason : Provider.Refusal}
    (f : Failure) (consumed : List CookieChange) (remote : String)
    (h : run act w = (.error (.refused reason), v)) :
    ∃ log, run (consulting f consumed remote act) w
      = (.error (.failed f consumed), { v with log }) := by
  rw [consulting, Act.run_handle, h]
  exact ⟨_, rfl⟩

def welcome (flow : Flow) (sealer : Sealer) (user : Identity) (now : Instant) :
    Except Error LoginStep :=
  match sealer.seal user.toJson loginLifetime flow.loginCookie now with
  | .ok cookie => .ok ⟨.authenticated, some "/",
      [.clear flow.stateCookie, ⟨flow.loginCookie, cookie, loginLifetime⟩]⟩
  | .error e => .error (.sealing e)

-- -----------------------------------------------------------------------------
-- Callbacks
-- -----------------------------------------------------------------------------

theorem callback_unconfigured (h : flow.configured = false) :
    run (flow.callback code state stateCookie remote) w = (flow.refusal .notConfigured, w) := by
  rw [callback, Act.run_bind, requireConfigured_refused h]
  rfl

theorem callback_codeless (h : flow.configured = true) (hcode : (code.getD "").isEmpty = true) :
    run (flow.callback code state stateCookie remote) w = (flow.refusal .missingCode, w) := by
  obtain ⟨sealer, hsealer, hprovider⟩ := configured_iff.mp h
  simp only [callback, if_pos hcode]
  rw [Act.run_bind, requireConfigured_run hsealer hprovider]
  rfl

theorem callback_checks (h : flow.configured = true) (hsealer : flow.sealer = some sealer)
    (hcode : (code.getD "").isEmpty = false) :
    run (flow.callback code state stateCookie remote) w
      = run (do
          flow.checkState sealer state stateCookie [.clear flow.stateCookie] remote
          flow.redeem sealer (code.getD "") remote) w := by
  have hprovider : flow.provider.configured = true := (Bool.and_eq_true_iff.mp h).2
  simp only [callback, hcode]
  rw [Act.run_bind, requireConfigured_run hsealer hprovider]
  rfl

theorem callback_mismatched (remote : String) (h : flow.configured = true)
    (hcode : (code.getD "").isEmpty = false) (hstate : flow.Mismatches state stateCookie w.clock) :
    ∃ log, run (flow.callback code state stateCookie remote) w
      = (flow.refusal .stateMismatch, { w with log }) := by
  obtain ⟨sealer, hsealer, -⟩ := configured_iff.mp h
  obtain ⟨log, hcheck⟩ :=
    checkState_mismatched [.clear flow.stateCookie] remote hsealer hstate
  refine ⟨log, ?_⟩
  rw [callback_checks h hsealer hcode, Act.run_bind, hcheck]
  rfl

theorem callback_garbled {codes : List Nat} (h : flow.configured = true)
    (hcode : (code.getD "").isEmpty = false)
    (hstate : flow.Garbled state stateCookie w.clock codes) :
    run (flow.callback code state stateCookie remote) w = (.error (.surrogate ⟨codes⟩), w) := by
  obtain ⟨sealer, hsealer, -⟩ := configured_iff.mp h
  rw [callback_checks h hsealer hcode, Act.run_bind, checkState_garbled hsealer hstate]

theorem callback_redeems (remote : String) (h : flow.Passes code state stateCookie w.clock) :
    ∃ sealer, flow.sealer = some sealer
      ∧ run (flow.callback code state stateCookie remote) w
        = run (flow.redeem sealer (code.getD "") remote) w := by
  obtain ⟨sealer, text, hsealer, hstate, hopen⟩ := h.state
  refine ⟨sealer, hsealer, ?_⟩
  rw [callback_checks h.configured hsealer h.code, Act.run_bind, checkState_run hstate hopen]

theorem callback_unexchanged {reason : Provider.Refusal} (remote : String)
    (h : flow.Passes code state stateCookie w.clock)
    (hexchange : run (flow.provider.exchange (code.getD "")) w = (.error (.refused reason), v)) :
    ∃ log, run (flow.callback code state stateCookie remote) w
      = (flow.refusal .exchange, { v with log }) := by
  obtain ⟨sealer, -, hredeem⟩ := callback_redeems remote h
  obtain ⟨log, hrun⟩ := consulting_refused .exchange [.clear flow.stateCookie] remote hexchange
  refine ⟨log, ?_⟩
  rw [hredeem, redeem, Act.run_bind, hrun]
  rfl

theorem callback_unnamed {reason : Provider.Refusal} (remote : String)
    (h : flow.Passes code state stateCookie w.clock)
    (hexchange : run (flow.provider.exchange (code.getD "")) w = (.ok token, v))
    (hprofile : run (flow.provider.profile token) v = (.error (.refused reason), v')) :
    ∃ log, run (flow.callback code state stateCookie remote) w
      = (flow.refusal .profile, { v' with log }) := by
  obtain ⟨sealer, -, hredeem⟩ := callback_redeems remote h
  obtain ⟨log, hrun⟩ := consulting_refused .profile [.clear flow.stateCookie] remote hprofile
  refine ⟨log, ?_⟩
  rw [hredeem, redeem, Act.run_bind, consulting_run hexchange]
  simp only
  rw [Act.run_bind, hrun]
  rfl

theorem callback_named {user : Identity} (remote : String)
    (h : flow.Passes code state stateCookie w.clock)
    (hexchange : run (flow.provider.exchange (code.getD "")) w = (.ok token, v))
    (hprofile : run (flow.provider.profile token) v = (.ok user, v')) :
    ∃ sealer log, flow.sealer = some sealer
      ∧ run (flow.callback code state stateCookie remote) w
        = (flow.welcome sealer user w.clock, { v' with log }) := by
  obtain ⟨sealer, hsealer, hredeem⟩ := callback_redeems remote h
  have hclock : v'.clock = w.clock :=
    (Provider.profile_clock hprofile).trans (Provider.exchange_clock hexchange)
  refine ⟨sealer, v'.log ++ [⟨.info, "[oauth] login for user " ++ user.id.filled ++ " from "
    ++ remote⟩], hsealer, ?_⟩
  rw [hredeem, redeem, Act.run_bind, consulting_run hexchange]
  simp only
  rw [Act.run_bind, consulting_run hprofile]
  simp only
  rw [Act.run_bind, Act.run_note]
  simp only [sealCookie, Act.run_bind, Act.run_now, Act.run_ofExcept, Sealer.cookie, hclock, welcome]
  cases sealer.seal user.toJson loginLifetime flow.loginCookie w.clock <;> rfl

theorem FailsAt.result {f : Failure} {requests : List Provider.Request}
    (h : flow.FailsAt code state stateCookie w f requests) (remote : String) :
    (run (flow.callback code state stateCookie remote) w).1 = flow.refusal f := by
  cases h with
  | notConfigured h => rw [callback_unconfigured h]
  | missingCode h hcode => rw [callback_codeless h hcode]
  | stateMismatch h hcode hstate =>
    obtain ⟨log, hrun⟩ := callback_mismatched remote h hcode hstate
    rw [hrun]
  | exchange h hexchange =>
    obtain ⟨log, hrun⟩ := callback_unexchanged remote h hexchange
    rw [hrun]
  | profile h hexchange hprofile =>
    obtain ⟨log, hrun⟩ := callback_unnamed remote h hexchange hprofile
    rw [hrun]

theorem opens_cases (state : Option RawText) (hsealer : flow.sealer = some sealer)
    (hrefusal : ∀ e, sealer.unseal (stateCookie.getD "") flow.stateCookie w.clock = .error e →
      e.isRefusal = true) :
    flow.Recognizes state stateCookie w.clock ∨ flow.Mismatches state stateCookie w.clock
      ∨ ∃ codes, flow.Garbled state stateCookie w.clock codes := by
  cases hopen : sealer.unseal (stateCookie.getD "") flow.stateCookie w.clock with
  | error e => exact .inr (.inl (.refused hsealer hopen (hrefusal e hopen)))
  | ok value =>
    cases value with
    | str s =>
      cases s with
      | broken codes => exact .inr (.inr ⟨codes, .cookie hsealer hopen⟩)
      | text text =>
        cases hstate : state.getD "" with
        | broken codes => exact .inr (.inr ⟨codes, .state hsealer hopen hstate⟩)
        | text given =>
          by_cases hmatch : text = given
          · exact .inl ⟨sealer, text, hsealer, hmatch ▸ hstate, hopen⟩
          · exact .inr (.inl (.other hsealer hopen hstate hmatch))
    | _ => exact .inr (.inl (.kind hsealer hopen nofun))

-- -----------------------------------------------------------------------------
-- What is sent
-- -----------------------------------------------------------------------------

theorem exists_post {client : Provider.Client} {c : RawText} {result : Except Provider.Error Json}
    (hrun : run (client.exchange c) w = (result, v)) (h : Foreseen result) :
    ∃ post, Tells post client c ∧ v.sent = w.sent ++ [post] := by
  have hsent := Provider.exchange_sent client c w
  have hforeseen : Foreseen (run (client.exchange c) w).1 := by rwa [hrun]
  obtain ⟨text, endpoint, rfl, hrequests⟩ := Provider.tokenRequests_of_foreseen hforeseen
  rw [hrun, hrequests] at hsent
  exact ⟨_, ⟨text, rfl, Provider.tokenRequest_exchanges client text endpoint⟩, hsent⟩

theorem exists_get {client : Provider.Client} {result : Except Provider.Error Identity}
    (hrun : run (client.profile token) v = (result, v')) (h : Foreseen result) :
    ∃ get, Shows get token ∧ v'.sent = v.sent ++ [get] := by
  have hsent := Provider.profile_sent client token v
  have hforeseen : Foreseen (run (client.profile token) v).1 := by rwa [hrun]
  obtain ⟨bearer, endpoint, hbearer, hrequests⟩ := Provider.profileRequests_of_foreseen hforeseen
  rw [hrun, hrequests] at hsent
  exact ⟨_, ⟨bearer, endpoint, hbearer, rfl⟩, hsent⟩

theorem exists_refusal {α : Type} {e : Provider.Error}
    (h : Foreseen (.error e : Except Provider.Error α)) : ∃ reason, e = .refused reason := by
  have hrefusal := h e rfl
  cases e with
  | refused reason => exact ⟨reason, rfl⟩
  | _ => cases hrefusal

theorem passes_ends (remote : String) (h : flow.Passes code state stateCookie w.clock)
    (hexpects : flow.Expects code state stateCookie w) :
    ∃ requests, (run (flow.callback code state stateCookie remote) w).2.sent = w.sent ++ requests
      ∧ flow.Ends code state stateCookie w
        (run (flow.callback code state stateCookie remote) w).1 requests := by
  have hforeseen := hexpects.exchange h
  rcases hexchange : run (flow.provider.exchange (code.getD "")) w with ⟨e | token, v⟩
  · -- no token, so no profile is asked for
    rw [hexchange] at hforeseen
    obtain ⟨reason, rfl⟩ := exists_refusal hforeseen
    obtain ⟨post, hpost, hsent⟩ := exists_post hexchange hforeseen
    obtain ⟨log, hrun⟩ := callback_unexchanged remote h hexchange
    rw [hrun]
    exact ⟨[post], hsent, .refused (.exchange h hexchange hpost)⟩
  · rw [hexchange] at hforeseen
    obtain ⟨post, hpost, hsent⟩ := exists_post hexchange hforeseen
    have hforeseen' := hexpects.profile h token v hexchange
    rcases hprofile : run (flow.provider.profile token) v with ⟨e | user, v'⟩
    -- the second request is out whether or not a user comes back
    all_goals
      rw [hprofile] at hforeseen'
      obtain ⟨get, hget, hsent'⟩ := exists_get hprofile hforeseen'
      rw [hsent, List.append_assoc] at hsent'
    · obtain ⟨reason, rfl⟩ := exists_refusal hforeseen'
      obtain ⟨log, hrun⟩ := callback_unnamed remote h hexchange hprofile
      rw [hrun]
      exact ⟨[post, get], hsent', .refused (.profile h hexchange hprofile hpost hget)⟩
    · obtain ⟨sealer, log, hsealer, hrun⟩ := callback_named remote h hexchange hprofile
      rw [hrun, welcome]
      refine ⟨[post, get], hsent', ?_⟩
      cases hseal : sealer.seal user.toJson loginLifetime flow.loginCookie w.clock with
      | ok cookie => exact .loggedIn h hexchange hprofile hpost hget hsealer hseal
      | error e => exact .unsealable h hexchange hprofile hpost hget hsealer hseal

theorem exists_ends (remote : String) (hexpects : flow.Expects code state stateCookie w) :
    ∃ requests, (run (flow.callback code state stateCookie remote) w).2.sent = w.sent ++ requests
      ∧ flow.Ends code state stateCookie w
        (run (flow.callback code state stateCookie remote) w).1 requests := by
  cases hconfigured : flow.configured with
  | false =>
    rw [callback_unconfigured hconfigured]
    exact ⟨[], (List.append_nil _).symm, .refused (.notConfigured hconfigured)⟩
  | true =>
    cases hcode : (code.getD "").isEmpty with
    | true =>
      rw [callback_codeless hconfigured hcode]
      exact ⟨[], (List.append_nil _).symm, .refused (.missingCode hconfigured hcode)⟩
    | false =>
      obtain ⟨sealer, hsealer, -⟩ := configured_iff.mp hconfigured
      rcases opens_cases state hsealer (hexpects.cookie sealer · hsealer) with
        hstate | hstate | ⟨codes, hstate⟩
      · exact passes_ends remote ⟨hconfigured, hcode, hstate⟩ hexpects
      · obtain ⟨log, hrun⟩ := callback_mismatched remote hconfigured hcode hstate
        rw [hrun]
        exact ⟨[], (List.append_nil _).symm, .refused (.stateMismatch hconfigured hcode hstate)⟩
      · rw [callback_garbled hconfigured hcode hstate]
        exact ⟨[], (List.append_nil _).symm, .garbled hconfigured hcode hstate⟩

theorem Ends.calls_iff {result : Except Error LoginStep} {requests : List Provider.Request}
    (h : flow.Ends code state stateCookie w result requests) :
    requests ≠ [] ↔ flow.Passes code state stateCookie w.clock := by
  constructor
  · intro hcalls
    cases h with
    | refused h =>
      cases h with
      | notConfigured | missingCode | stateMismatch => exact absurd rfl hcalls
      | exchange h | profile h => exact h
    | garbled => exact absurd rfl hcalls
    | loggedIn h | unsealable h => exact h
  · rintro hpasses rfl
    cases h with
    | refused h =>
      cases h with
      | notConfigured h => exact Bool.false_ne_true (h.symm.trans hpasses.configured)
      | missingCode _ hcode => exact Bool.false_ne_true (hpasses.code.symm.trans hcode)
      | stateMismatch _ _ hstate => exact hpasses.state.not_mismatches hstate
    | garbled _ _ hstate => exact hpasses.state.not_garbled hstate

theorem callback_welcomes {user : Identity} (remote : String)
    (h : flow.Passes code state stateCookie w.clock)
    (hexchange : run (flow.provider.exchange (code.getD "")) w = (.ok token, v))
    (hprofile : run (flow.provider.profile token) v = (.ok user, v'))
    (hproper : user.toJson.isBroken = false) (hnonneg : 0 ≤ w.clock) (hclock : w.clock < horizon) :
    ∃ sealer cookie, flow.sealer = some sealer
      ∧ sealer.seal user.toJson loginLifetime flow.loginCookie w.clock = .ok cookie
      ∧ (run (flow.callback code state stateCookie remote) w).1
        = .ok ⟨.authenticated, some "/",
          [.clear flow.stateCookie, ⟨flow.loginCookie, cookie, loginLifetime⟩]⟩ := by
  obtain ⟨sealer, log, hsealer, hrun⟩ := callback_named remote h hexchange hprofile
  obtain ⟨cookie, hseal⟩ := Seal.exists_seal sealer user.toJson loginLifetime flow.loginCookie
    hproper (Nat.zero_le _) user.depth_toJson_lt (by decide) hnonneg hclock
  refine ⟨sealer, cookie, hsealer, hseal, ?_⟩
  rw [hrun, welcome, hseal]

/-- The provider hears nothing of a callback before somebody can log in, there is a code, and the
cookie opens as the state that came back. Then it is asked once for a token, with the code, and if it
gives one, once for the profile, with the token. A user it names whom a cookie can hold is sealed into
the login cookie. A callback that is refused ends with the failure of the first stage that fails, with
the status of a bad request; all callbacks that fail at this stage end alike, whatever the provider
said to them and whatever was wrong with the state. -/
theorem callback_checks_before_calling (flow : Flow) (code state stateCookie : Option RawText)
    (remote : String) (w : World) (h : flow.Expects code state stateCookie w) :
    ∃ requests, (run (flow.callback code state stateCookie remote) w).2.sent = w.sent ++ requests
      ∧ flow.Ends code state stateCookie w
        (run (flow.callback code state stateCookie remote) w).1 requests
      ∧ (requests ≠ [] ↔ flow.Passes code state stateCookie w.clock)
      ∧ (∀ token user v v', flow.Passes code state stateCookie w.clock →
        run (flow.provider.exchange (code.getD "")) w = (.ok token, v) →
        run (flow.provider.profile token) v = (.ok user, v') →
        user.toJson.isBroken = false → 0 ≤ w.clock → w.clock < horizon →
        ∃ sealer cookie, flow.sealer = some sealer
          ∧ sealer.seal user.toJson loginLifetime flow.loginCookie w.clock = .ok cookie
          ∧ (run (flow.callback code state stateCookie remote) w).1
            = .ok ⟨.authenticated, some "/",
              [.clear flow.stateCookie, ⟨flow.loginCookie, cookie, loginLifetime⟩]⟩)
      ∧ (∀ f, flow.FailsAt code state stateCookie w f requests → f.status = 400
        ∧ ∀ (flow' : Flow) (code' state' stateCookie' : Option RawText) (remote' : String)
          (w' : World) (requests' : List Provider.Request),
          flow'.stateCookie = flow.stateCookie →
          flow'.FailsAt code' state' stateCookie' w' f requests' →
          (run (flow'.callback code' state' stateCookie' remote') w').1
            = (run (flow.callback code state stateCookie remote) w).1)
      ∧ [Failure.notConfigured, .missingCode, .stateMismatch, .exchange, .profile].map Failure.code
        = ["E_CONFIGURATION", "E_MISSING_CODE", "E_STATE_MISMATCH", "E_UPSTREAM_FAILURE",
          "E_UPSTREAM_FAILURE"] := by
  obtain ⟨requests, hsent, hends⟩ := exists_ends remote h
  refine ⟨requests, hsent, hends, hends.calls_iff, ?_, ?_, rfl⟩
  · intro token user v v' hpasses hexchange hprofile
    exact callback_welcomes remote hpasses hexchange hprofile
  · intro f hfails
    refine ⟨by cases hfails <;> rfl, ?_⟩
    intro flow' code' state' stateCookie' remote' w' requests' hcookie hfails'
    rw [hfails.result, hfails'.result, refusal, refusal, hcookie]

/-- A cookie that opens and a provider that names a user are as expected, whatever came back. -/
theorem expects_of_named {value : Json} {c : RawText} {user : Identity}
    (hcode : code.getD "" = c) (hsealer : flow.sealer = some sealer)
    (hopen : sealer.unseal (stateCookie.getD "") flow.stateCookie w.clock = .ok value)
    (hexchange : run (flow.provider.exchange c) w = (.ok token, v))
    (hprofile : run (flow.provider.profile token) v = (.ok user, v')) :
    flow.Expects code state stateCookie w where
  cookie := by
    intro sealer' e hsealer' hopen'
    cases hsealer.symm.trans hsealer'
    cases hopen.symm.trans hopen'
  exchange := by
    intro _
    rw [hcode, hexchange]
    exact .ok token
  profile := by
    intro _ token' u hexchange'
    rw [hcode] at hexchange'
    cases hexchange.symm.trans hexchange'
    rw [hprofile]
    exact .ok user

/-- A callback that logs a user in, and one for another state: the provider hears nothing of it, and
it ends like one without a state and without a cookie. -/
theorem callback_checks_before_calling_state : ∃ (flow : Flow) (w : World) (cookie : RawText) (login : String)
    (requests : List Provider.Request), requests ≠ []
    ∧ flow.Expects (some "code") (some "state") (some cookie) w
    ∧ flow.Expects (some "code") (some "other") (some cookie) w
    ∧ (run (flow.callback (some "code") (some "state") (some cookie) "::1") w).2.sent
      = w.sent ++ requests
    ∧ (run (flow.callback (some "code") (some "state") (some cookie) "::1") w).1
      = .ok ⟨.authenticated, some "/",
        [.clear flow.stateCookie, ⟨flow.loginCookie, login, loginLifetime⟩]⟩
    ∧ (run (flow.callback (some "code") (some "other") (some cookie) "::1") w).2.sent = w.sent
    ∧ (run (flow.callback (some "guess") none none "::2") w).1
      = (run (flow.callback (some "code") (some "other") (some cookie) "::1") w).1 := by
  obtain ⟨client, w, hconfigured, hclock, huser⟩ := Provider.exists_naming 1700000000000000
  obtain ⟨token, v, hexchange, hprofile⟩ := Act.bind_ok.mp (Act.run_eq huser)
  let flow : Flow := ⟨some ⟨"secret"⟩, client, "state", "login", ""⟩
  have hsealer : flow.sealer = some ⟨"secret"⟩ := rfl
  have hnonneg : 0 ≤ w.clock := by rw [hclock]; decide
  have hend : w.clock < horizon := by rw [hclock]; decide
  obtain ⟨cookie, -, hopen⟩ := exists_presented hsealer "state" hnonneg hend
  have hflow : flow.configured = true := configured_iff.mpr ⟨_, hsealer, hconfigured⟩
  have hpasses : flow.Passes (some "code") (some "state") (some (.text cookie)) w.clock :=
    ⟨hflow, rfl, _, "state", hsealer, rfl, hopen⟩
  have hexpects (state : RawText) :
      flow.Expects (some "code") (some state) (some (.text cookie)) w :=
    expects_of_named rfl hsealer hopen hexchange hprofile
  have hmismatch : flow.Mismatches (some "other") (some (.text cookie)) w.clock :=
    .other hsealer hopen rfl (by decide)
  have hmissing : flow.Mismatches none none w.clock := .refused hsealer rfl rfl
  obtain ⟨requests, hsent, -, hcalls, hwelcome, -⟩ := callback_checks_before_calling flow
    (some "code") (some "state") (some (.text cookie)) "::1" w (hexpects "state")
  obtain ⟨_, login, -, -, hlogin⟩ := hwelcome token _ v _ hpasses hexchange hprofile rfl hnonneg hend
  obtain ⟨none', hsilent, -, hquiet, -, halike, -⟩ := callback_checks_before_calling flow
    (some "code") (some "other") (some (.text cookie)) "::1" w (hexpects "other")
  have hnone : none' = [] := not_not.mp fun hne => (hquiet.mp hne).state.not_mismatches hmismatch
  rw [hnone] at hsilent halike
  obtain ⟨-, halike⟩ := halike .stateMismatch (.stateMismatch hflow rfl hmismatch)
  exact ⟨flow, w, cookie, login, requests, hcalls.mpr hpasses, hexpects "state", hexpects "other",
    hsent, hlogin, by rw [hsilent, List.append_nil],
    halike flow (some "guess") none none "::2" w [] rfl (.stateMismatch hflow rfl hmissing)⟩

theorem exists_sealError (sealer : Sealer) {value : Json} (lifetime : ℤ) (purpose : String)
    (now : Instant) (h : value.isBroken = true) :
    ∃ e, sealer.seal value lifetime purpose now = .error e := by
  cases hseal : sealer.seal value lifetime purpose now with
  | error e => exact ⟨e, rfl⟩
  | ok token =>
    obtain ⟨-, -, hproper, -⟩ := Seal.seal_ok hseal
    exact absurd (h.symm.trans hproper) (by decide)

theorem exists_halfNamed : ∃ body,
    Provider.readProfile (.bare body) = .ok ⟨"4", .broken [0xd800], "", ""⟩ := by
  refine ⟨Utf8.ofString "\x7b\"id\":\"4\",\"username\":\"\\ud800\"\x7d", ?_⟩
  simp only [Provider.readProfile, Provider.readBody, Json.readBytes_half]
  decide +kernel

theorem halfNamed_isBroken : (Identity.toJson ⟨"4", .broken [0xd800], "", ""⟩).isBroken = true := by
  rfl

/-- The provider names a user by half a surrogate pair. All that was asked of it has been answered, and
still no cookie is sealed: the callback ends in a way that nobody foresaw. -/
theorem user_not_sealed : ∃ (flow : Flow) (w v v' : World) (cookie : RawText) (token : Json)
    (user : Identity) (e : SealError),
    flow.Expects (some "code") (some "state") (some cookie) w
    ∧ flow.Passes (some "code") (some "state") (some cookie) w.clock
    ∧ run (flow.provider.exchange "code") w = (.ok token, v)
    ∧ run (flow.provider.profile token) v = (.ok user, v')
    ∧ (run (flow.callback (some "code") (some "state") (some cookie) "::1") w).1
      = .error (.sealing e) := by
  obtain ⟨client, hconfigured, htokenUrl, huserUrl⟩ := Provider.exists_reachable
  obtain ⟨tokenBody, -, -, htoken⟩ := Provider.exists_token "t" (by decide)
  obtain ⟨userBody, huser⟩ := exists_halfNamed
  have hbearer : Provider.bearerAuthorization (.str "t") = .ok "Bearer t" := by decide +kernel
  let script : Provider.Script := ⟨.response (.bare tokenBody), .response (.bare userBody)⟩
  obtain ⟨w, hscript, hclock⟩ : ∃ w : World, w.provider = script ∧ w.clock = 0 :=
    ⟨{ Store.holding .empty with clock := 0, provider := script }, rfl, rfl⟩
  let flow : Flow := ⟨some ⟨"secret"⟩, client, "state", "login", ""⟩
  have hsealer : flow.sealer = some ⟨"secret"⟩ := rfl
  obtain ⟨cookie, -, hopen⟩ := exists_presented hsealer "state" (Int.le_refl 0) (by decide)
  rw [← hclock] at hopen
  obtain ⟨v, hexchange, hv⟩ :=
    Provider.exchange_of_bare htokenUrl (by rw [hscript]) htoken "code"
  obtain ⟨v', hprofile⟩ := Provider.profile_run (w := v) huserUrl (by rw [hv, hscript])
    (Provider.carries_bare userBody) hbearer huser
  have hpasses : flow.Passes (some "code") (some "state") (some (.text cookie)) w.clock :=
    ⟨configured_iff.mpr ⟨_, hsealer, hconfigured⟩, rfl, _, "state", hsealer, rfl, hopen⟩
  obtain ⟨sealer, log, -, hrun⟩ := callback_named "::1" hpasses hexchange hprofile
  obtain ⟨e, hseal⟩ := exists_sealError sealer loginLifetime flow.loginCookie w.clock
    halfNamed_isBroken
  refine ⟨flow, w, v, v', cookie, _, _, e, expects_of_named rfl hsealer hopen hexchange hprofile,
    hpasses, hexchange, hprofile, ?_⟩
  rw [hrun, welcome, hseal]

end Login.Flow
end OnAir
