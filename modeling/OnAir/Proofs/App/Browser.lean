import OnAir.Proofs.App.Visit
import OnAir.Proofs.Login.Completion
import OnAir.Proofs.Seal.Lifetime

/-!
# One login for each time it was begun

The application remembers nothing of a login, so that a login is completed once rests on the jar of
the browser: between two completions its state is spent, until another login is begun.
-/

namespace OnAir

open Act (Quiet run)
open Http (Jar)
open Login (Flow Spent)
open Seal (Sealer)

namespace App

-- -----------------------------------------------------------------------------
-- Sessions
-- -----------------------------------------------------------------------------

/-- The sessions of a browser: its visits in order, and its jar before the first and after the last.
It stores and removes cookies as each response says, and may lose any of them in between. The world
may have changed between two visits in whatever way. -/
inductive Session (app : App) (first : Jar) : List Visit → Jar → Prop
  | start : Session app first [] first
  | lose {past : List Visit} {jar : Jar} (name : String) (h : Session app first past jar) :
    Session app first past (jar.remove name)
  | visit {past : List Visit} {jar : Jar} (v : Visit) (h : Session app first past jar)
    (hlogins : v.IsLogins) (hcarried : jar.Carried v.request) :
    Session app first (past ++ [v]) (jar.applyAll (v.response app).cookies)

def pending (app : App) (past : List Visit) : Bool :=
  past.foldl (fun begun v => v.begins app || (begun && !v.completes app)) false

section
variable {app : App} {first jar : Jar} {past rest : List Visit} {v : Visit}

theorem pending_snoc :
    app.pending (past ++ [v]) = (v.begins app || (app.pending past && !v.completes app)) := by
  rw [pending, List.foldl_append]
  rfl

theorem pending_of_completed (hcompletes : v.completes app = true)
    (hrest : ∀ z ∈ rest, z.begins app = false) : app.pending (past ++ v :: rest) = false := by
  induction rest using List.reverseRecOn with
  | nil =>
    rw [pending_snoc, hcompletes, Visit.begins_of_completes hcompletes]
    simp
  | append_singleton rest z ih =>
    have hz : z.begins app = false := hrest z (by simp)
    rw [← List.cons_append, ← List.append_assoc, pending_snoc, hz,
      ih fun y hy => hrest y (List.mem_append_left _ hy)]
    rfl

namespace Session

theorem sound (h : Session app first past jar) (hfirst : first.Sound) : jar.Sound := by
  induction h with
  | start => exact hfirst
  | lose name _ ih => exact ih.remove name
  | visit v _ hlogins _ ih => exact (v.effect hlogins).sound ih

theorem spent (h : Session app first past jar) (hfirst : first.get? app.flow.stateCookie = none)
    (hpending : app.pending past = false) :
    Spent app.flow ((jar.get? app.flow.stateCookie).map .text) := by
  induction h with
  | start =>
    rw [hfirst]
    exact .absent
  | @lose past jar name _ ih =>
    refine spent_of_gone (ih hpending) ?_
    rw [Jar.get?_remove]
    split
    · exact .inl rfl
    · exact .inr rfl
  | @visit past jar v _ hlogins _ ih =>
    rw [pending_snoc, Bool.or_eq_false_iff] at hpending
    obtain ⟨hbegins, hpending⟩ := hpending
    refine (v.effect hlogins).spent hbegins fun hcompletes => ih ?_
    rw [hcompletes, Bool.not_false, Bool.and_true] at hpending
    exact hpending

theorem before (h : Session app first (past ++ v :: rest) jar) :
    ∃ jar', Session app first past jar' ∧ jar'.Carried v.request := by
  generalize hall : past ++ v :: rest = all at h
  -- the session may have gone on, and its jar may have lost cookies since
  induction h generalizing rest with
  | start => simp at hall
  | lose _ _ ih => exact ih hall
  | @visit earlier jar' z h _ hcarried ih =>
    induction rest using List.reverseRecOn with
    | nil =>
      obtain ⟨rfl, hz⟩ := List.append_inj' hall rfl
      cases hz
      exact ⟨jar', h, hcarried⟩
    | append_singleton rest y _ =>
      rw [← List.cons_append, ← List.append_assoc] at hall
      obtain ⟨hearlier, -⟩ := List.append_inj' hall rfl
      exact ih hearlier

theorem pending_of_completes (h : Session app first (past ++ v :: rest) jar)
    (hsound : first.Sound) (hfirst : first.get? app.flow.stateCookie = none)
    (hcompletes : v.completes app = true) : app.pending past = true := by
  obtain ⟨jar', hbefore, hcarried⟩ := h.before
  by_contra hpending
  have hspent := hbefore.spent hfirst (Bool.eq_false_iff.mpr hpending)
  cases hcompletes.symm.trans (Visit.not_completes_of_spent (hbefore.sound hsound) hcarried hspent)

theorem count (h : Session app first past jar) (hsound : first.Sound)
    (hfirst : first.get? app.flow.stateCookie = none) :
    past.countP (·.completes app) + (app.pending past).toNat ≤ past.countP (·.begins app) := by
  induction h with
  | start => exact Nat.le_refl 0
  | lose _ _ ih => exact ih
  | @visit past jar v h hlogins hcarried ih =>
    have hstep := (h.visit v hlogins hcarried).pending_of_completes hsound hfirst
    rw [pending_snoc, List.countP_append, List.countP_append, List.countP_singleton,
      List.countP_singleton]
    -- a completion uses up what is pending, and what is pending counts as the one that is to come
    cases hcompletes : v.completes app with
    | true =>
      rw [hstep hcompletes] at ih
      rw [Visit.begins_of_completes hcompletes]
      simpa using ih
    | false =>
      cases v.begins app with
      | true => simpa using Nat.le_trans (Nat.le_add_right _ _) ih
      | false => simpa using ih

theorem exists_begun {sealer : Sealer} {w : World} (hsealer : app.flow.sealer = some sealer)
    (hconfigured : app.flow.provider.configured = true)
    (hname : Http.Cookie.isName app.flow.stateCookie = true) (hnonneg : 0 ≤ w.clock)
    (h : w.clock < Instant.horizon) :
    ∃ x token, sealer.seal (.str (Login.stateAt w)) Login.stateLifetime app.flow.stateCookie w.clock
        = .ok token
      ∧ Session app .empty [x] ⟨[(app.flow.stateCookie, token)]⟩ := by
  let x : Visit := ⟨w, ⟨"", "GET", "/oauth2/initiate", [], [], [], none, "", "", ""⟩⟩
  have hto : x.isTo .initiate := by
    change Http.destination "GET" "/oauth2/initiate" = _
    decide
  obtain ⟨token, hseal, hinitiate⟩ :=
    Flow.initiate_run (w := x.entered) hsealer hconfigured hnonneg h
  have hresponse : x.response app = _ :=
    x.response_initiate hto (Act.run_eq hinitiate) hname (by decide)
  have hjar : Jar.empty.applyAll (x.response app).cookies
      = ⟨[(app.flow.stateCookie, token)]⟩ := by
    rw [hresponse]
    rfl
  refine ⟨x, token, hseal, ?_⟩
  rw [← hjar]
  exact Session.visit x .start (.inl hto) rfl

end Session

theorem user_noting (client : Provider.Client) (code : RawText) (w : World)
    (lines : List Log.Entry) :
    (run (client.user code) (w.noting lines)).1 = (run (client.user code) w).1 := by
  have hquiet : Quiet fun w v : World =>
      w.provider = v.provider ∧ w.clock = v.clock ∧ w.runtime = v.runtime :=
    ⟨fun _ _ h => h.2.1, fun _ _ h => h.2.2, fun _ _ h => h.1, fun _ _ _ h => h, fun _ _ _ h => h⟩
  have halike := (client.exchange_alike hquiet code).bind fun token =>
    client.profile_alike hquiet token
  exact (halike (w := w.noting lines) (v := w) ⟨rfl, rfl, rfl⟩).1

/-- Whoever comes back with a state and the cookie that it was sealed into completes the login. -/
theorem Visit.completes_of_presented {sealer : Sealer} {code state cookie : String}
    {user : Login.Identity} {date : Calendar.Date} (hto : v.isTo .callback)
    (hsealer : app.flow.sealer = some sealer) (hconfigured : app.flow.provider.configured = true)
    (hname : Http.Cookie.isName app.flow.stateCookie = true)
    (hlogin : Http.Cookie.isName app.flow.loginCookie = true) (hne : code ≠ "")
    (hcode : v.request.parameter? "code" = some code)
    (hstate : v.request.parameter? "state" = some state)
    (hcookie : v.request.cookie? app.flow.stateCookie = some cookie)
    (hopen : sealer.unseal cookie app.flow.stateCookie v.world.clock = .ok (.str state))
    (huser : (run (app.flow.provider.user code) v.world).1 = .ok user)
    (hproper : user.toJson.isBroken = false) (hnonneg : 0 ≤ v.world.clock)
    (h : v.world.clock < Instant.horizon) (hdate : v.world.clock.date = .ok date) :
    v.completes app = true := by
  have hnamed : (run (app.flow.provider.user code) v.entered).1 = .ok user := by
    rw [Visit.entered, user_noting, huser]
  obtain ⟨token, -, hcallback⟩ := Flow.callback_run (w := v.entered) v.request.remote hsealer
    hconfigured (by simp [hne]) hopen hnamed hproper hnonneg h
  have hcomeBack : app.comeBack v.request
      = app.flow.callback (some code) (some (.text state)) (some (.text cookie)) v.request.remote := by
    rw [App.comeBack, hcode, hstate, hcookie]
    rfl
  rw [← hcomeBack] at hcallback
  exact Visit.completes_of_callback hto hcallback hname hlogin (by decide) hdate

end

end App

-- -----------------------------------------------------------------------------
-- One completion for each beginning
-- -----------------------------------------------------------------------------

open App (Session Visit)

/-- A browser that had no state completes no login twice: between two completions another login is
begun, there are never more completions than beginnings, and whoever comes back after a completion
is refused until a login is begun again. All that tells of the refusal is the log: nothing is asked of
the provider. -/
theorem login_completed_once (app : App) {first jar : Jar} {past : List Visit}
    (h : Session app first past jar) (hsound : first.Sound)
    (hfirst : first.get? app.flow.stateCookie = none) :
    (∀ (before between after : List Visit) (x y : Visit),
        past = before ++ x :: (between ++ y :: after) → x.completes app = true →
        y.completes app = true → ∃ z ∈ between, z.begins app = true)
      ∧ past.countP (·.completes app) ≤ past.countP (·.begins app)
      ∧ ∀ (before since : List Visit) (x : Visit), past = before ++ x :: since →
        x.completes app = true → (∀ z ∈ since, z.begins app = false) →
        ∀ v : Visit, v.isTo .callback → jar.Carried v.request →
          ∃ told, v.Refuses app { v.world with log := v.world.log ++ told } := by
  refine ⟨?_, Nat.le_of_add_right_le (h.count hsound hfirst), ?_⟩
  · rintro before between after x y rfl hx hy
    by_contra hnone
    have hidle : ∀ z ∈ between, z.begins app = false := fun z hz =>
      Bool.eq_false_iff.mpr fun hbegins => hnone ⟨z, hz, hbegins⟩
    have hpending : app.pending (before ++ x :: between) = false :=
      App.pending_of_completed hx hidle
    rw [← List.cons_append, ← List.append_assoc] at h
    cases hpending.symm.trans (h.pending_of_completes hsound hfirst hy)
  · rintro before since x rfl hx hidle v hto hcarried
    exact Visit.refuses_of_spent hto (h.sound hsound) hcarried
      (h.spent hfirst (App.pending_of_completed hx hidle))

/-- Somebody logs in with one name for both cookies, and comes back once more. -/
theorem login_completed_once_replayed : ∃ (app : App) (x y : Visit) (jar : Jar),
    app.flow.stateCookie = app.flow.loginCookie ∧ Session app .empty [x, y] jar
      ∧ y.completes app = true
      ∧ ∀ v : Visit, v.isTo .callback → jar.Carried v.request →
        ∃ told, v.Refuses app { v.world with log := v.world.log ++ told } := by
  obtain ⟨client, w, hconfigured, hclock, huser⟩ := Provider.exists_naming 1700000000000000
  let settings : Settings := ⟨false, "", 0, 1, "", "", "", "", "", "", [], "", false, "session",
    "session", "", "", "", "", 1, .ofInt 5, "key"⟩
  let flow : Flow := ⟨some ⟨"secret"⟩, client, "session", "session", "/avatars"⟩
  let app : App := ⟨settings, "", .make "" 1 (.ofInt 5), flow⟩
  have hsealer : app.flow.sealer = some ⟨"secret"⟩ := rfl
  have hname : Http.Cookie.isName "session" = true := by decide
  let w₀ : World := { w with random := ⟨fun _ => 7, 0⟩ }
  have hnonneg : 0 ≤ w.clock := by
    rw [hclock]
    decide
  have hbefore : w.clock < Instant.horizon := by
    rw [hclock]
    decide
  -- the state is sealed and comes back in the same instant
  obtain ⟨x, token, hseal, hbegun⟩ :=
    Session.exists_begun (w := w₀) hsealer hconfigured hname hnonneg hbefore
  have hstart : Instant.Stampable w.clock := Instant.stampable_of_lt hnonneg hbefore
  have hwithin : Instant.Within w.clock.wholeSeconds 900 w.clock := by
    rw [hclock]
    exact (Instant.within_wholeSeconds (by decide) (by decide) (by decide) (by decide)).mpr
      (by decide)
  have hopen := Seal.unseal_within rfl hstart hseal (by decide) (by decide) hstart.lt_utmost hwithin
  -- the second request shows the jar
  let jar : Jar := ⟨[("session", token)]⟩
  have hsound : jar.Sound := hbegun.sound Http.Jar.sound_empty
  let query : Bytes := Utf8.ofString "code=code&state=BwcHBwcHBwcH"
  let decoded := (Url.Form.decode true (query.map fun b => Char.ofNat b.toNat)).reverse
  let y : Visit := ⟨w, ⟨"", "GET", "/oauth2/cb", query, jar.header?.toList.map ("cookie", ·), [],
    none, "", "", ""⟩⟩
  have hto : Http.destination "GET" "/oauth2/cb" = .endpoint .callback := by decide
  have hcarried : jar.Carried y.request := rfl
  have hcookie : y.request.cookie? "session" = some token := by
    rw [hcarried.cookie? hsound]
    exact congrArg some (Http.Cookie.shown_plain (Seal.isUnreserved_of_seal_ok hseal))
  have hcode : decoded.lookup "code" = some "code" := by decide +kernel
  have hstate : decoded.lookup "state" = some (Login.stateAt w₀) := by
    rw [show Login.stateAt w₀ = "BwcHBwcHBwcH" from by cbv]
    decide +kernel
  obtain ⟨date, hdate⟩ : ∃ date, w.clock.date = .ok date := by
    rw [hclock]
    exact exists_of_isOk (by decide +kernel)
  have hy : y.completes app = true :=
    Visit.completes_of_presented hto hsealer hconfigured hname hname (by decide : "code" ≠ "") hcode
      hstate hcookie hopen huser rfl hnonneg hbefore hdate
  have hsession := Session.visit y hbegun (.inr (.inl hto)) hcarried
  obtain ⟨-, -, hreplay⟩ := login_completed_once app hsession Http.Jar.sound_empty rfl
  exact ⟨app, x, y, _, rfl, hsession, hy, hreplay [x] [] y rfl hy (List.forall_mem_nil _)⟩

end OnAir
