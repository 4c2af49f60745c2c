import Mathlib
import OnAir.Proofs.Login.Completion

/-!
# Runs of the login flow

Clients call one flow in any order and present any strings as cookies, codes and states, broken ones
too; between two calls the world may change in any way, so the clock goes where it likes and the
provider answers as it likes. The one thing asked of the keyed hash is that a presented cookie which
verifies carries a text from a cookie of the same name that an earlier call set.

Every authenticated callback then answers an earlier `initiate`, and every identity comes from an
earlier authenticated callback, both within the lifetimes of the two cookies.
-/

namespace OnAir.Login

open Instant (horizon wholeSeconds)
open Seal (CookieChange Sealer signedText? signingKey)

-- -----------------------------------------------------------------------------
-- Calls
-- -----------------------------------------------------------------------------

inductive Call
  | initiate
  | callback (code state stateCookie : Option RawText) (remote : String)
  | logout
  | readIdentity (loginCookie : Option RawText)
  | requireIdentity (loginCookie : Option RawText) (remote : String)

inductive Answer
  | step (result : Except Error LoginStep)
  | identity (result : Except Error Identity)

def Flow.serve (flow : Flow) : Call → World → Answer × World
  | .initiate, w => (flow.initiate.run w).map .step id
  | .callback code state stateCookie remote, w =>
    ((flow.callback code state stateCookie remote).run w).map .step id
  | .logout, w => (.step (.ok flow.logout), w)
  | .readIdentity loginCookie, w => ((flow.readIdentity loginCookie).run w).map .identity id
  | .requireIdentity loginCookie remote, w =>
    ((flow.requireIdentity loginCookie remote).run w).map .identity id

structure Entry where
  world : World
  call : Call

namespace Entry

def answer (flow : Flow) (e : Entry) : Answer :=
  (flow.serve e.call e.world).1

def cookies (flow : Flow) (e : Entry) : List CookieChange :=
  match e.answer flow with
  | .step (.ok step) => step.cookies
  | _ => []

def Issues (flow : Flow) (e : Entry) (state : String) : Prop :=
  e.call = .initiate ∧ state = stateAt e.world ∧ ∃ step, e.answer flow = .step (.ok step)
    ∧ step.redirect = some (flow.provider.authorizationUrl state)

def Authenticates (flow : Flow) (e : Entry) (user : Identity) : Prop :=
  ∃ code state stateCookie remote step, e.call = .callback code state stateCookie remote
    ∧ e.answer flow = .step (.ok step) ∧ step.state = .authenticated
    ∧ ((flow.provider.user (code.getD "")).run e.world).1 = .ok user

end Entry

-- -----------------------------------------------------------------------------
-- Runs
-- -----------------------------------------------------------------------------

/-- The cookie a call looks into: the name it must have been sealed for, and what was presented. -/
def Call.presented (flow : Flow) : Call → Option (String × RawText)
  | .callback _ _ stateCookie _ => some (flow.stateCookie, stateCookie.getD "")
  | .readIdentity loginCookie | .requireIdentity loginCookie _ =>
    some (flow.loginCookie, loginCookie.getD "")
  | .initiate | .logout => none

def Signed (flow : Flow) (past : List Entry) (sealer : Sealer) (name : String) (text : Bytes) :
    Prop :=
  ∃ e ∈ past, ∃ change ∈ e.cookies flow, change.name = name
    ∧ signedText? (signingKey sealer.secret name) (Utf8.ofString change.value) = some text

/-- Whatever verifies about the presented cookie was signed for its name before. -/
def Unforged (flow : Flow) (past : List Entry) (call : Call) : Prop :=
  ∀ sealer name (token : String) text, flow.sealer = some sealer →
    call.presented flow = some (name, .text token) →
    signedText? (signingKey sealer.secret name) (Utf8.ofString token) = some text →
    Signed flow past sealer name text

/-- The runs of a flow, each with its calls in order and the world after them. -/
inductive Run (flow : Flow) : List Entry → World → Prop
  | start (w : World) : Run flow [] w
  | move {past : List Entry} {w : World} (w' : World) (hrun : Run flow past w) : Run flow past w'
  | call {past : List Entry} {w : World} (call : Call) (hrun : Run flow past w)
      (hclock : w.clock < horizon) (hunforged : Unforged flow past call) :
      Run flow (past ++ [⟨w, call⟩]) (flow.serve call w).2

-- -----------------------------------------------------------------------------
-- Where texts come from
-- -----------------------------------------------------------------------------

/-- What a call seals: the state of a login that it begins, or the user of one that it ends. -/
inductive Origin (flow : Flow) (e : Entry) : Json → ℤ → Prop
  | state (h : e.Issues flow (stateAt e.world)) :
      Origin flow e (.str (.text (stateAt e.world))) stateLifetime
  | user {user : Identity} (h : e.Authenticates flow user) :
      Origin flow e user.toJson loginLifetime

section
variable {flow : Flow} {past : List Entry} {e : Entry} {sealer : Sealer}

theorem Origin.isExact {value : Json} {lifetime : ℤ} (h : Origin flow e value lifetime) :
    value.isExact = true := by
  cases h with
  | state => rfl
  | user => exact Identity.isExact_toJson _

theorem initiate_answer {step : LoginStep} (hcall : e.call = .initiate)
    (h : e.answer flow = .step (.ok step)) :
    (flow.initiate.run e.world).1 = .ok step := by
  rw [Entry.answer, hcall] at h
  exact Answer.step.inj h

theorem callback_answer {code state stateCookie : Option RawText} {remote : String}
    {step : LoginStep} (hcall : e.call = .callback code state stateCookie remote)
    (h : e.answer flow = .step (.ok step)) :
    ((flow.callback code state stateCookie remote).run e.world).1 = .ok step := by
  rw [Entry.answer, hcall] at h
  exact Answer.step.inj h

theorem origin_of_initiate {step : LoginStep} {change : CookieChange}
    (hsealer : flow.sealer = some sealer) (hcall : e.call = .initiate)
    (hanswer : e.answer flow = .step (.ok step)) (hchange : change ∈ step.cookies) :
    ∃ value lifetime, Origin flow e value lifetime
      ∧ sealer.seal value lifetime change.name e.world.clock = .ok change.value := by
  obtain ⟨sealer', token, hsealer', hseal, hstep⟩ :=
    Flow.initiate_ok (Act.run_eq (initiate_answer hcall hanswer))
  rw [hsealer, Option.some.injEq] at hsealer'
  subst hsealer'
  have hissues : e.Issues flow (stateAt e.world) := ⟨hcall, rfl, step, hanswer, by rw [hstep]⟩
  simp only [hstep, List.mem_singleton] at hchange
  subst hchange
  exact ⟨_, _, .state hissues, hseal⟩

theorem origin_of_callback {step : LoginStep} {change : CookieChange}
    {code state stateCookie : Option RawText} {remote : String}
    (hsealer : flow.sealer = some sealer)
    (hcall : e.call = .callback code state stateCookie remote)
    (hanswer : e.answer flow = .step (.ok step)) (hchange : change ∈ step.cookies)
    (hvalue : change.value ≠ "") :
    ∃ value lifetime, Origin flow e value lifetime
      ∧ sealer.seal value lifetime change.name e.world.clock = .ok change.value := by
  obtain ⟨sealer', expected, user, token, hsealer', -, -, huser, hseal, hstep⟩ :=
    Flow.callback_ok (Act.run_eq (callback_answer hcall hanswer))
  rw [hsealer, Option.some.injEq] at hsealer'
  subst hsealer'
  have hauthenticates : e.Authenticates flow user :=
    ⟨code, state, stateCookie, remote, step, hcall, hanswer, by rw [hstep], huser⟩
  simp only [hstep, List.mem_cons, List.not_mem_nil, or_false] at hchange
  rcases hchange with rfl | rfl
  · exact absurd rfl hvalue
  · exact ⟨_, _, .user hauthenticates, hseal⟩

/-- A cookie that verifies holds what the call had to seal, with the clock of the call. -/
theorem origin_of_cookie {change : CookieChange} {text : Bytes}
    (hsealer : flow.sealer = some sealer) (hchange : change ∈ e.cookies flow)
    (htext : signedText? (signingKey sealer.secret change.name) (Utf8.ofString change.value)
      = some text) :
    ∃ value lifetime, Origin flow e value lifetime
      ∧ sealer.seal value lifetime change.name e.world.clock = .ok change.value := by
  have hvalue := Seal.ne_empty_of_signedText? htext
  simp only [Entry.cookies] at hchange
  split at hchange
  case h_2 => simp at hchange
  next step hanswer =>
  match hcall : e.call with
  | .initiate => exact origin_of_initiate hsealer hcall hanswer hchange
  | .callback code state stateCookie remote =>
    exact origin_of_callback hsealer hcall hanswer hchange hvalue
  | .logout =>
    rw [Entry.answer, hcall] at hanswer
    cases hanswer
    simp only [Flow.logout, List.mem_singleton] at hchange
    subst hchange
    exact absurd rfl hvalue
  | .readIdentity loginCookie | .requireIdentity loginCookie remote =>
    rw [Entry.answer, hcall] at hanswer
    cases hanswer

theorem unseal_ok {token : RawText} {purpose : String} {now : ℤ} {value : Json}
    (h : sealer.unseal token purpose now = .ok value) :
    ∃ (presented : String) (text : Bytes), token = presented
      ∧ signedText? (signingKey sealer.secret purpose) (Utf8.ofString presented) = some text
      ∧ Seal.openText text now = .ok value := by
  cases token with
  | broken codes => cases h
  | text presented =>
    rw [Seal.unseal_text] at h
    split at h
    · cases h
    · split at h
      · cases h
      · next text htext => exact ⟨presented, text, rfl, htext, h⟩

/-- What a presented cookie opens as was sealed by an earlier call, whose lifetime is not over. -/
theorem origin_of_unseal {call : Call} {name : String} {token : RawText} {now : ℤ} {value : Json}
    (hpast : ∀ e ∈ past, e.world.clock < horizon) (hnow : now < horizon)
    (hunforged : Unforged flow past call) (hsealer : flow.sealer = some sealer)
    (hpresented : call.presented flow = some (name, token))
    (hopen : sealer.unseal token name now = .ok value) :
    ∃ e ∈ past, ∃ lifetime, Origin flow e value lifetime
      ∧ now ≤ (wholeSeconds e.world.clock + lifetime) * 1000000 := by
  obtain ⟨presented, text, rfl, htext, hvalue⟩ := unseal_ok hopen
  obtain ⟨e, he, change, hchange, rfl, hsigned⟩ :=
    hunforged sealer name presented text hsealer hpresented htext
  obtain ⟨value', lifetime, horigin, hseal⟩ := origin_of_cookie hsealer hchange hsigned
  -- the cookie and the presented token carry the same text, so they open alike
  have hunseal := Seal.unseal_of_seal_ok horigin.isExact (hpast e he) hseal now
  rw [Seal.unseal_of_signedText? hsigned, hvalue] at hunseal
  split at hunseal
  · cases hunseal
  next hexpired =>
  cases hunseal
  refine ⟨e, he, lifetime, horigin, ?_⟩
  obtain ⟨-, -, -, hsecond, -, -⟩ := Seal.seal_ok hseal
  rw [Seal.isExpired_iff hnow] at hexpired
  omega

/-- What the answer to a call rests on, as far as it lets somebody in. -/
structure Justified (flow : Flow) (past : List Entry) (e : Entry) : Prop where
  /-- An authenticated callback brings back the state of a login begun less than its lifetime
  ago. -/
  callback : ∀ code state stateCookie remote step, e.call = .callback code state stateCookie remote →
    e.answer flow = .step (.ok step) → step.state = .authenticated →
      ∃ i ∈ past, ∃ issued, i.Issues flow issued ∧ state = some (.text issued)
        ∧ e.world.clock ≤ (wholeSeconds i.world.clock + 900) * 1000000
  /-- A required identity is that of a user authenticated less than its lifetime ago. -/
  required : ∀ loginCookie remote x, e.call = .requireIdentity loginCookie remote →
    e.answer flow = .identity (.ok x) →
      ∃ c ∈ past, c.Authenticates flow x
        ∧ e.world.clock ≤ (wholeSeconds c.world.clock + 2592000) * 1000000
  /-- So is an identity that is shown, but for the address of its picture. -/
  shown : ∀ loginCookie x, e.call = .readIdentity loginCookie →
    e.answer flow = .identity (.ok x) → x.isAnonymous = false →
      ∃ c ∈ past, ∃ user, c.Authenticates flow user ∧ x = flow.withAvatar user
        ∧ e.world.clock ≤ (wholeSeconds c.world.clock + 2592000) * 1000000

theorem identity_justified {loginCookie : Option RawText} {x : Identity}
    (hpast : ∀ e ∈ past, e.world.clock < horizon) (hnow : e.world.clock < horizon)
    (hunforged : Unforged flow past e.call)
    (hpresented : e.call.presented flow = some (flow.loginCookie, loginCookie.getD ""))
    (h : flow.unsealIdentity loginCookie e.world.clock = .ok (some x)) :
    ∃ c ∈ past, c.Authenticates flow x
      ∧ e.world.clock ≤ (wholeSeconds c.world.clock + 2592000) * 1000000 := by
  obtain ⟨sealer, payload, hsealer, hopen, hread⟩ := Flow.unsealIdentity_some h
  obtain ⟨c, hc, lifetime, horigin, hclock⟩ :=
    origin_of_unseal hpast hnow hunforged hsealer hpresented hopen
  cases horigin with
  | state => exact absurd hread (Identity.ofJson?_str _ x)
  | user hauthenticates =>
    rw [Identity.ofJson?_toJson, Except.ok.injEq] at hread
    subst hread
    exact ⟨c, hc, hauthenticates, hclock⟩

theorem justified_of_unforged (hpast : ∀ e ∈ past, e.world.clock < horizon)
    (hnow : e.world.clock < horizon) (hunforged : Unforged flow past e.call) :
    Justified flow past e := by
  refine ⟨?_, ?_, ?_⟩
  · intro code state stateCookie remote step hcall hanswer _
    obtain ⟨sealer, expected, _, _, hsealer, hopen, hmatch, -, -, -⟩ :=
      Flow.callback_ok (Act.run_eq (callback_answer hcall hanswer))
    have hpresented : e.call.presented flow = some (flow.stateCookie, stateCookie.getD "") := by
      rw [hcall]; rfl
    obtain ⟨i, hi, lifetime, horigin, hclock⟩ :=
      origin_of_unseal hpast hnow hunforged hsealer hpresented hopen
    cases horigin with
    | user => cases hmatch
    | state hissues =>
      have hstate := Flow.stateMatches_ok rfl hmatch
      refine ⟨i, hi, _, hissues, ?_, hclock⟩
      cases state with
      | none =>
        rw [Option.getD_none, RawText.text.injEq] at hstate
        exact absurd hstate.symm (stateAt_ne_empty i.world)
      | some s => exact congrArg some hstate
  · intro loginCookie remote x hcall hanswer
    have hpresented : e.call.presented flow = some (flow.loginCookie, loginCookie.getD "") := by
      rw [hcall]; rfl
    rw [Entry.answer, hcall] at hanswer
    exact identity_justified hpast hnow hunforged hpresented
      (Flow.requireIdentity_ok (Act.run_eq (Answer.identity.inj hanswer)))
  · intro loginCookie x hcall hanswer hx
    have hpresented : e.call.presented flow = some (flow.loginCookie, loginCookie.getD "") := by
      rw [hcall]; rfl
    rw [Entry.answer, hcall] at hanswer
    obtain ⟨user, hsome, rfl⟩ := Flow.readIdentity_ok (Act.run_eq (Answer.identity.inj hanswer)) hx
    obtain ⟨c, hc, hauthenticates, hclock⟩ :=
      identity_justified hpast hnow hunforged hpresented hsome
    exact ⟨c, hc, user, hauthenticates, rfl, hclock⟩

-- -----------------------------------------------------------------------------
-- Honest runs
-- -----------------------------------------------------------------------------

theorem unforged_of_cookie {call : Call} {change : CookieChange} (he : e ∈ past)
    (hchange : change ∈ e.cookies flow)
    (hpresented : call.presented flow = some (change.name, .text change.value)) :
    Unforged flow past call := by
  intro sealer name token text _ h htext
  rw [hpresented] at h
  cases h
  exact ⟨e, he, change, hchange, rfl, htext⟩

theorem unseal_in_time {token name : String} {value : Json} {lifetime sealed now : ℤ}
    (hexact : value.isExact = true) (hseal : sealer.seal value lifetime name sealed = .ok token)
    (hnonneg : 0 ≤ sealed) (h : sealed < horizon) (hnow : now < horizon) (hlifetime : 0 < lifetime)
    (htime : now ≤ (sealed / 1000000 + lifetime) * 1000000) :
    sealer.unseal token name now = .ok value := by
  rw [Seal.unseal_of_seal_ok hexact h hseal,
    (Seal.isExpired_wholeSeconds hnonneg h hnow).mpr ⟨hlifetime, htime⟩]
  rfl

/-- A client who brings back in time what each call handed out ends up as the provider's user. -/
theorem exists_login_run (flow : Flow) (remote : String) {w₀ w₁ w₂ : World} {code : String}
    {user : Identity} (hsealer : flow.sealer = some sealer)
    (hconfigured : flow.provider.configured = true)
    (hcode : code ≠ "") (huser : ((flow.provider.user code).run w₁).1 = .ok user)
    (hproper : user.toJson.isBroken = false) (hsomebody : user.isAnonymous = false)
    (h₀ : 0 ≤ w₀.clock ∧ w₀.clock < horizon) (h₁ : 0 ≤ w₁.clock ∧ w₁.clock < horizon)
    (h₂ : w₂.clock < horizon) (hstate : w₁.clock ≤ (w₀.clock / 1000000 + 900) * 1000000)
    (hlogin : w₂.clock ≤ (w₁.clock / 1000000 + 2592000) * 1000000) :
    ∃ before e w, Run flow (before ++ [e]) w ∧ e.answer flow = .identity (.ok user)
      ∧ ∃ loginCookie, e.call = .requireIdentity loginCookie remote := by
  obtain ⟨token₀, hseal₀, hrun₀⟩ := Flow.initiate_run hsealer hconfigured h₀.1 h₀.2
  have hopen₀ := unseal_in_time rfl hseal₀ h₀.1 h₀.2 h₁.2 (by decide) hstate
  obtain ⟨token₁, hseal₁, hrun₁⟩ := Flow.callback_run remote hsealer hconfigured (by simp [hcode])
    hopen₀ huser hproper h₁.1 h₁.2
  have hopen₁ := unseal_in_time (Identity.isExact_toJson user) hseal₁ h₁.1 h₁.2 h₂ (by decide) hlogin
  have hrun₂ := Flow.requireIdentity_run remote hsealer hopen₁ hsomebody
  let e₀ : Entry := ⟨w₀, .initiate⟩
  let e₁ : Entry := ⟨w₁, .callback (some code) (some (.text (stateAt w₀))) (some (.text token₀)) remote⟩
  let e₂ : Entry := ⟨w₂, .requireIdentity (some (.text token₁)) remote⟩
  have hanswer₀ : e₀.answer flow = .step (flow.initiate.run w₀).1 := rfl
  have hanswer₁ : e₁.answer flow
      = .step ((flow.callback (some code) (some (.text (stateAt w₀))) (some (.text token₀))
        remote).run w₁).1 := rfl
  have hanswer₂ : e₂.answer flow
      = .identity ((flow.requireIdentity (some (.text token₁)) remote).run w₂).1 := rfl
  have hcookie₀ : ⟨flow.stateCookie, token₀, stateLifetime⟩ ∈ e₀.cookies flow := by
    simp [Entry.cookies, hanswer₀, hrun₀]
  have hcookie₁ : ⟨flow.loginCookie, token₁, loginLifetime⟩ ∈ e₁.cookies flow := by
    simp [Entry.cookies, hanswer₁, hrun₁]
  have hinitiated : Run flow [e₀] (flow.serve e₀.call w₀).2 :=
    Run.call e₀.call (.start w₀) h₀.2 (by intro _ _ _ _ _ h; cases h)
  have hcalledBack : Run flow [e₀, e₁] (flow.serve e₁.call w₁).2 :=
    Run.call e₁.call (hinitiated.move w₁) h₁.2
      (unforged_of_cookie List.mem_cons_self hcookie₀ rfl)
  have hrequired : Run flow [e₀, e₁, e₂] (flow.serve e₂.call w₂).2 :=
    Run.call e₂.call (hcalledBack.move w₂) h₂
      (unforged_of_cookie (List.mem_cons_of_mem _ List.mem_cons_self) hcookie₁ rfl)
  exact ⟨[e₀, e₁], e₂, _, hrequired, by rw [hanswer₂, hrun₂], some (.text token₁), rfl⟩

-- -----------------------------------------------------------------------------
-- Whole runs
-- -----------------------------------------------------------------------------

theorem Run.clock_lt {w : World} (hrun : Run flow past w) : ∀ e ∈ past, e.world.clock < horizon := by
  induction hrun with
  | start => simp
  | move _ _ ih => exact ih
  | call call _ hclock _ ih =>
    intro e he
    rcases List.mem_append.mp he with he | he
    · exact ih e he
    · rw [List.mem_singleton.mp he]
      exact hclock

/-- In every run every answer is justified by what came before it. -/
theorem Run.justified {history : List Entry} {w : World} (hrun : Run flow history w) :
    ∀ before after e, history = before ++ e :: after → Justified flow before e := by
  induction hrun with
  | start => simp
  | move _ _ ih => exact ih
  | @call past w call hrun hclock hunforged ih =>
    intro before after e h
    rcases List.eq_nil_or_concat after with rfl | ⟨after, last, rfl⟩
    · obtain ⟨rfl, hlast⟩ := List.append_inj' h rfl
      cases hlast
      exact justified_of_unforged hrun.clock_lt hclock hunforged
    · -- the last call comes after this one
      have h' : past ++ [⟨w, call⟩] = (before ++ e :: after) ++ [last] := by simpa using h
      exact ih before after e (List.append_inj' h' rfl).1

end

theorem justified_login :
    ∃ (flow : Flow) (before : List Entry) (e : Entry) (w : World),
      Run flow (before ++ [e]) w ∧ (∃ loginCookie, e.call = .requireIdentity loginCookie "::1")
        ∧ e.answer flow = .identity (.ok ⟨"42", "ann", "", ""⟩) ∧ Justified flow before e := by
  obtain ⟨client, w, hconfigured, hclock, hvouched⟩ := Provider.exists_naming 1700000600000000
  obtain ⟨w₀, hclock₀⟩ : ∃ w₀ : World, w₀.clock = 1700000000000000 := ⟨{ w with clock := _ }, rfl⟩
  obtain ⟨w₂, hclock₂⟩ : ∃ w₂ : World, w₂.clock = 1700001200000000 := ⟨{ w with clock := _ }, rfl⟩
  let flow : Flow := ⟨some ⟨"secret"⟩, client, "state", "login", "/avatars"⟩
  obtain ⟨before, e, w', hrun, hanswer, hcall⟩ := exists_login_run flow "::1" rfl hconfigured
    (by decide) hvouched (by decide) (by decide) (by rw [hclock₀]; decide)
    (by rw [hclock]; decide) (by rw [hclock₂]; decide) (by rw [hclock, hclock₀]; decide)
    (by rw [hclock, hclock₂]; decide)
  exact ⟨_, before, e, w', hrun, hcall, hanswer, hrun.justified before [] e rfl⟩

end OnAir.Login
