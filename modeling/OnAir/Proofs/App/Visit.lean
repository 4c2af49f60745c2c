import OnAir.Proofs.App.Admission
import OnAir.Proofs.App.Cookies
import OnAir.Proofs.Login.Ambient
import OnAir.Proofs.Login.Spent

/-!
# Visits of a browser

A visit of a browser either begins a login, completes one, or at most removes cookies. A completed
login leaves the place of the state cookie spent, and only the beginning of another login puts a
state into it again.
-/

namespace OnAir

open Act (run)
open Http (Endpoint Jar Request Response SetCookie)
open Http.SetCookie (Puts)
open Login (Flow LoginStep Spent)
open Seal (CookieChange)

namespace App

-- -----------------------------------------------------------------------------
-- Visits
-- -----------------------------------------------------------------------------

/-- A request of a browser and the world that it finds. -/
structure Visit where
  world : World
  request : Request

namespace Visit

variable (app : App) (v : Visit)

def entered : World :=
  v.world.noting [v.request.arrival]

def response : Response :=
  (app.serve v.request v.world).1

def isTo (endpoint : Endpoint) : Prop :=
  Http.destination v.request.method v.request.path = .endpoint endpoint

def IsLogins : Prop :=
  v.isTo .initiate ∨ v.isTo .callback ∨ v.isTo .logout ∨ v.isTo .user

def begins : Bool :=
  Http.destination v.request.method v.request.path = .endpoint .initiate
    && (v.response app).status = 302

def completes : Bool :=
  Http.destination v.request.method v.request.path = .endpoint .callback
    && (v.response app).status = 302 && (v.response app).headers.contains ("location", "/")

end Visit

-- -----------------------------------------------------------------------------
-- What a visit does
-- -----------------------------------------------------------------------------

/-- What a visit does to the cookies of the browser: it puts a new state where a login was begun, it
removes the state and puts the login where one was completed, and else it only removes cookies. -/
inductive Visit.Effect (app : App) (v : Visit) : List SetCookie → Prop
  | begins {line : SetCookie} {token : String} (hbegins : v.begins app = true)
    (hcompletes : v.completes app = false) (hputs : Puts line app.flow.stateCookie token) :
    v.Effect app [line]
  | completes {gone line : SetCookie} {token : String} (hbegins : v.begins app = false)
    (hcompletes : v.completes app = true) (hname : gone.name = app.flow.stateCookie)
    (hgone : gone.maxAge = 0) (hputs : Puts line app.flow.loginCookie token)
    (hlogin : app.flow.loginCookie = app.flow.stateCookie → Spent app.flow (some token)) :
    v.Effect app [gone, line]
  | removes {lines : List SetCookie} (hbegins : v.begins app = false)
    (hcompletes : v.completes app = false) (hlines : ∀ line ∈ lines, line.maxAge = 0) :
    v.Effect app lines

namespace Visit

variable {app : App} {v : Visit}

theorem begins_eq_false (h : v.isTo .initiate → (v.response app).status ≠ 302) :
    v.begins app = false := by
  rw [begins, Bool.and_eq_false_iff, decide_eq_false_iff_not, decide_eq_false_iff_not]
  by_cases hto : v.isTo .initiate
  · exact .inr (h hto)
  · exact .inl hto

theorem completes_eq_false (h : v.isTo .callback → (v.response app).status ≠ 302) :
    v.completes app = false := by
  rw [completes, Bool.and_eq_false_iff, Bool.and_eq_false_iff, decide_eq_false_iff_not,
    decide_eq_false_iff_not]
  by_cases hto : v.isTo .callback
  · exact .inl (.inr (h hto))
  · exact .inl (.inl hto)

theorem isTo_unique {e e' : Endpoint} (h : v.isTo e) (h' : v.isTo e') : e = e' := by
  cases h.symm.trans h'
  rfl

theorem begins_of_completes (h : v.completes app = true) : v.begins app = false := by
  rw [completes, Bool.and_eq_true, Bool.and_eq_true, decide_eq_true_eq] at h
  exact begins_eq_false fun hinitiate => nomatch isTo_unique hinitiate h.1.1

/-- A refused visit: it is answered with the status of an error, and cookies are only removed. -/
structure Refuses (app : App) (v : Visit) (after : World) : Prop where
  status : 400 ≤ (v.response app).status
  cookies : ∀ line ∈ (v.response app).cookies, line.maxAge = 0
  world : (app.serve v.request v.world).2 = after

variable {w' : World}

theorem Refuses.effect (h : v.Refuses app w') : v.Effect app (v.response app).cookies :=
  have hstatus : (v.response app).status ≠ 302 :=
    Nat.ne_of_gt (Nat.lt_of_lt_of_le (by decide) h.status)
  .removes (begins_eq_false fun _ => hstatus) (completes_eq_false fun _ => hstatus) h.cookies

theorem refuses_of_error {e : RequestError}
    (h : run (app.respond v.request) v.entered = (.error e, w')) :
    ∃ told, v.Refuses app (w'.noting told) := by
  obtain ⟨hstatus, hcookies, hworld⟩ := serve_of_error h
  refine ⟨_, hstatus, fun line hline => ?_, hworld⟩
  rw [response, hcookies] at hline
  cases hline

/-- Where only cookies are left to change, the answer has a line for each change, or none can be
written and the visit is refused. -/
theorem carries {changes : List CookieChange} {answer : Response}
    (h : run (app.respond v.request) v.entered = run (app.withCookies changes answer) w') :
    (∃ lines, changes.mapM (SetCookie.ofChange · app.settings.cookieSecure w'.clock) = .ok lines
        ∧ v.response app = ({ answer with cookies := answer.cookies ++ lines } : Response).guarded
        ∧ ∃ told, (app.serve v.request v.world).2 = w'.noting told)
      ∨ ∃ told, v.Refuses app (w'.noting told) := by
  rcases app.withCookies_run changes answer w' with ⟨lines, hlines, hok⟩ | ⟨u, herror⟩
  · have hserve := serve_of_ok (h.trans hok)
    exact .inl ⟨lines, hlines, congrArg Prod.fst hserve, ⟨_, congrArg Prod.snd hserve⟩⟩
  · exact .inr (refuses_of_error (h.trans herror))

theorem respond_initiate {step : LoginStep} (hto : v.isTo .initiate)
    (h : run app.flow.initiate v.entered = (.ok step, w')) :
    run (app.respond v.request) v.entered
      = run (app.withCookies step.cookies (.redirect 302 (step.redirect.getD ""))) w' := by
  rw [respond_eq hto, handle, initiate, Act.run_bind, Act.run_mapError, h]
  rfl

theorem respond_callback {step : LoginStep} (hto : v.isTo .callback)
    (h : run (app.comeBack v.request) v.entered = (.ok step, w')) :
    run (app.respond v.request) v.entered
      = run (app.withCookies step.cookies (.redirect 302 (step.redirect.getD "/"))) w' := by
  rw [respond_eq hto, handle, callback, Act.run_bind, Act.run_attempt, h]

theorem completes_of_response {lines : List SetCookie} (hto : v.isTo .callback)
    (h : v.response app = ({ Response.redirect 302 "/" with cookies := lines } : Response).guarded) :
    v.completes app = true := by
  have hlocation : ("location", "/") ∈ (Response.redirect 302 "/").headers := by decide +kernel
  rw [completes, h, Bool.and_eq_true, Bool.and_eq_true]
  exact ⟨⟨decide_eq_true hto, rfl⟩, List.contains_iff_mem.mpr (List.mem_append_left _ hlocation)⟩

theorem refuses_of_callback {e : Login.Error} (hto : v.isTo .callback)
    (h : run (app.comeBack v.request) v.entered = (.error e, w')) :
    ∃ told, v.Refuses app (w'.noting told) := by
  have hrespond : app.respond v.request = app.callback v.request := respond_eq hto
  have hcarries := Flow.callback_carries.error h
  cases e with
  | failed f changes =>
    cases hcarries f changes rfl
    have hrun : run (app.respond v.request) v.entered
        = run (app.withCookies [.clear app.flow.stateCookie] (app.failed v.request f))
          (w'.noting [failureLine v.request f]) := by
      rw [hrespond, callback, Act.run_bind, Act.run_attempt, h]
      rfl
    rcases carries hrun with ⟨lines, hlines, hresponse, told, hworld⟩ | ⟨told, hrefuses⟩
    · rw [World.noting_noting] at hworld
      refine ⟨_, ?_, ?_, hworld⟩
      · rw [hresponse]
        exact error_status f
      · rw [hresponse]
        exact SetCookie.all_remove_of_clears (List.forall_mem_singleton.mpr rfl) hlines
    · rw [World.noting_noting] at hrefuses
      exact ⟨_, hrefuses⟩
  | failure | sealing | unsealing | surrogate | provider =>
    obtain ⟨e, hrun⟩ : ∃ e, run (app.respond v.request) v.entered = (.error e, w') :=
      ⟨_, by rw [hrespond, callback, Act.run_bind, Act.run_attempt, h]; rfl⟩
    exact refuses_of_error hrun

theorem effect_initiate (hto : v.isTo .initiate) : v.Effect app (v.response app).cookies := by
  rcases hinitiate : run app.flow.initiate v.entered with ⟨e | step, w'⟩
  · have hrun : run (app.respond v.request) v.entered = (.error (.ofLogin e), w') := by
      rw [respond_eq hto, handle, initiate, Act.run_bind, Act.run_mapError, hinitiate]
      rfl
    obtain ⟨told, hrefuses⟩ := refuses_of_error hrun
    exact hrefuses.effect
  have hrun := respond_initiate hto hinitiate
  obtain ⟨sealer, token, hsealer, hseal, rfl⟩ := Flow.initiate_ok hinitiate
  rcases carries hrun with ⟨lines, hlines, hresponse, -⟩ | ⟨told, hrefuses⟩
  · obtain ⟨line, _, hline, hnil, rfl⟩ := SetCookie.mapM_cons_eq_ok.mp hlines
    cases hnil
    have hbegins : v.begins app = true := by
      rw [begins, hresponse, Bool.and_eq_true]
      exact ⟨decide_eq_true hto, rfl⟩
    rw [hresponse]
    exact .begins hbegins (completes_eq_false fun hcallback => nomatch isTo_unique hto hcallback)
      (SetCookie.puts_of_ofChange (by decide) (Seal.isUnreserved_of_seal_ok hseal) hline)
  · exact hrefuses.effect

theorem effect_callback (hto : v.isTo .callback) : v.Effect app (v.response app).cookies := by
  have hbegins : v.begins app = false :=
    begins_eq_false fun hinitiate => nomatch isTo_unique hto hinitiate
  rcases hcallback : run (app.comeBack v.request) v.entered with ⟨e | step, w'⟩
  · obtain ⟨told, hrefuses⟩ := refuses_of_callback hto hcallback
    exact hrefuses.effect
  have hrun := respond_callback hto hcallback
  obtain ⟨sealer, -, user, token, hsealer, -, -, -, hseal, rfl⟩ := Flow.callback_ok hcallback
  rcases carries hrun with ⟨lines, hlines, hresponse, -⟩ | ⟨told, hrefuses⟩
  · obtain ⟨gone, _, hgone, hlast, rfl⟩ := SetCookie.mapM_cons_eq_ok.mp hlines
    obtain ⟨line, _, hline, hnil, rfl⟩ := SetCookie.mapM_cons_eq_ok.mp hlast
    cases hnil
    have hcompletes : v.completes app = true := completes_of_response hto hresponse
    obtain ⟨hname, hage⟩ := SetCookie.removes_of_clears rfl hgone
    rw [hresponse]
    -- one name for both cookies leaves the login where the state was, and that is spent as well
    exact .completes hbegins hcompletes hname hage
      (SetCookie.puts_of_ofChange (by decide) (Seal.isUnreserved_of_seal_ok hseal) hline)
      fun hnames => .login hnames hsealer hseal
  · exact hrefuses.effect

theorem effect_logout (hto : v.isTo .logout) : v.Effect app (v.response app).cookies := by
  have hbegins : v.begins app = false :=
    begins_eq_false fun hinitiate => nomatch isTo_unique hto hinitiate
  have hcompletes : v.completes app = false :=
    completes_eq_false fun hcallback => nomatch isTo_unique hto hcallback
  have hrun : run (app.respond v.request) v.entered
      = run (app.withCookies [.clear app.flow.loginCookie] (.document 200 (.obj []))) v.entered := by
    rw [respond_eq hto]
    rfl
  rcases carries hrun with ⟨lines, hlines, hresponse, -⟩ | ⟨told, hrefuses⟩
  · rw [hresponse]
    exact .removes hbegins hcompletes
      (SetCookie.all_remove_of_clears (List.forall_mem_singleton.mpr rfl) hlines)
  · exact hrefuses.effect

theorem effect_user (hto : v.isTo .user) : v.Effect app (v.response app).cookies := by
  have hbegins : v.begins app = false :=
    begins_eq_false fun hinitiate => nomatch isTo_unique hto hinitiate
  have hcompletes : v.completes app = false :=
    completes_eq_false fun hcallback => nomatch isTo_unique hto hcallback
  have hrespond : app.respond v.request = app.user v.request := respond_eq hto
  rcases hrun : run (app.respond v.request) v.entered with ⟨e | answer, w'⟩
  · obtain ⟨told, hrefuses⟩ := refuses_of_error hrun
    exact hrefuses.effect
  · have hresponse : v.response app = _ := congrArg Prod.fst (serve_of_ok hrun)
    rw [hrespond, user] at hrun
    obtain ⟨identity, w₁, -, hrun⟩ := Act.bind_ok.mp hrun
    have hcookies : answer.cookies = [] := by
      dsimp only at hrun
      split at hrun
      · cases hrun
      · obtain ⟨rfl, -⟩ := Act.pure_ok.mp hrun
        rfl
    refine .removes hbegins hcompletes fun line hline => ?_
    rw [hresponse, Response.guarded, hcookies] at hline
    cases hline

theorem effect (hlogins : v.IsLogins) : v.Effect app (v.response app).cookies := by
  rcases hlogins with hto | hto | hto | hto
  · exact effect_initiate hto
  · exact effect_callback hto
  · exact effect_logout hto
  · exact effect_user hto

end Visit

-- -----------------------------------------------------------------------------
-- What a visit keeps
-- -----------------------------------------------------------------------------

section
variable {app : App} {jar : Jar} {v : Visit} {lines : List SetCookie}

theorem Visit.Effect.sound (h : v.Effect app lines) (hjar : jar.Sound) :
    (jar.applyAll lines).Sound := by
  cases h with
  | begins _ _ hputs =>
    rw [Jar.applyAll, List.foldl_cons, hputs.apply]
    exact hjar.put hputs.separable
  | @completes gone _ _ _ _ _ hgone hputs _ =>
    have hremove : jar.apply gone = jar.remove gone.name := if_pos hgone
    rw [Jar.applyAll, List.foldl_cons, List.foldl_cons, hputs.apply, hremove]
    exact (hjar.remove gone.name).put hputs.separable
  | removes _ _ hlines => exact hjar.applyAll_of_gone hlines

theorem spent_of_gone {flow : Flow} {after before : Option String}
    (h : Spent flow (before.map .text)) (hafter : after = none ∨ after = before) :
    Spent flow (after.map .text) := by
  rcases hafter with rfl | rfl
  · exact .absent
  · exact h

/-- Only the beginning of a login makes a spent state fresh, and its completion makes any spent. -/
theorem Visit.Effect.spent (h : v.Effect app lines) (hbegins : v.begins app = false)
    (hspent : v.completes app = false →
      Spent app.flow ((jar.get? app.flow.stateCookie).map .text)) :
    Spent app.flow (((jar.applyAll lines).get? app.flow.stateCookie).map .text) := by
  cases h with
  | begins hbegun => cases hbegins.symm.trans hbegun
  | @completes gone _ token _ _ hname hgone hputs hlogin =>
    have hremove : jar.apply gone = jar.remove app.flow.stateCookie := by
      rw [Jar.apply, if_pos hgone, hname]
    rw [Jar.applyAll, List.foldl_cons, List.foldl_cons, hputs.apply, hremove, List.foldl_nil,
      Jar.get?_put, Jar.get?_remove, if_pos rfl]
    by_cases hnames : app.flow.stateCookie = app.flow.loginCookie
    · rw [if_pos hnames]
      exact hlogin hnames.symm
    · rw [if_neg hnames]
      exact .absent
  | removes _ hcompletes hlines =>
    exact spent_of_gone (hspent hcompletes) (jar.get?_applyAll_of_gone hlines _)

theorem spent_shown {flow : Flow} {cookie : Option String} (h : Spent flow (cookie.map .text)) :
    cookie.map Http.Cookie.shown = cookie := by
  cases cookie with
  | none => rfl
  | some token =>
    cases h with
    | login _ _ hseal =>
      rw [Option.map_some, Http.Cookie.shown_plain (Seal.isUnreserved_of_seal_ok hseal)]

theorem Visit.refuses_of_spent (hto : v.isTo .callback) (hsound : jar.Sound)
    (hcarried : jar.Carried v.request)
    (h : Spent app.flow ((jar.get? app.flow.stateCookie).map .text)) :
    ∃ told, v.Refuses app { v.world with log := v.world.log ++ told } := by
  have hcookie : Spent app.flow ((v.request.cookie? app.flow.stateCookie).map .text) := by
    rw [hcarried.cookie? hsound, spent_shown h]
    exact h
  obtain ⟨e, told, hrefused⟩ := Flow.callback_refused hcookie
  obtain ⟨more, hrefuses⟩ := refuses_of_callback hto (hrefused (w := v.entered) rfl)
  change v.Refuses app ((v.entered.noting told).noting more) at hrefuses
  rw [entered, World.noting_noting, World.noting_noting] at hrefuses
  exact ⟨_, hrefuses⟩

theorem Visit.not_completes_of_spent (hsound : jar.Sound) (hcarried : jar.Carried v.request)
    (h : Spent app.flow ((jar.get? app.flow.stateCookie).map .text)) :
    v.completes app = false := by
  refine completes_eq_false fun hto hstatus => ?_
  obtain ⟨told, hrefuses⟩ := refuses_of_spent hto hsound hcarried h
  have hle := hrefuses.status
  rw [hstatus] at hle
  exact absurd hle (by decide)

end

-- -----------------------------------------------------------------------------
-- Answers of a login that goes through
-- -----------------------------------------------------------------------------

namespace Visit

variable {app : App} {v : Visit} {w' : World} {name other token : String} {age : Int}

theorem response_initiate {state : Login.State} {url : String} (hto : v.isTo .initiate)
    (h : run app.flow.initiate v.entered = (.ok ⟨state, some url, [⟨name, token, age⟩]⟩, w'))
    (hname : Http.Cookie.isName name = true) (hage : 0 < age) :
    v.response app = ({ Response.redirect 302 url with
      cookies := [⟨name, token, age, none, app.settings.cookieSecure⟩] } : Response).guarded := by
  have hrun : run (app.respond v.request) v.entered = (.ok { Response.redirect 302 url with
      cookies := [⟨name, token, age, none, app.settings.cookieSecure⟩] }, w') := by
    rw [respond_initiate hto h, withCookies, Act.run_bind, Act.run_now]
    simp only [List.mapM_cons, List.mapM_nil, SetCookie.ofChange_lasting hname hage]
    rfl
  exact congrArg Prod.fst (serve_of_ok hrun)

theorem completes_of_callback {state : Login.State} {date : Calendar.Date}
    (hto : v.isTo .callback)
    (h : (run (app.comeBack v.request) v.entered).1
        = .ok ⟨state, some "/", [.clear name, ⟨other, token, age⟩]⟩)
    (hname : Http.Cookie.isName name = true) (hother : Http.Cookie.isName other = true)
    (hage : 0 < age) (hdate : v.world.clock.date = .ok date) : v.completes app = true := by
  have hclock : (run (app.comeBack v.request) v.entered).2.clock = v.world.clock :=
    app.flow.callback_clock _ _ _ _
  rw [← hclock] at hdate
  have hrun : (run (app.respond v.request) v.entered).1 = .ok { Response.redirect 302 "/" with
      cookies := [⟨name, "", 0, some date, app.settings.cookieSecure⟩,
        ⟨other, token, age, none, app.settings.cookieSecure⟩] } := by
    rw [respond_callback hto (Act.run_eq h), withCookies, Act.run_bind, Act.run_now]
    simp only [List.mapM_cons, List.mapM_nil, SetCookie.ofChange_lasting hother hage,
      SetCookie.ofChange_clear hname hdate]
    rfl
  exact completes_of_response hto (congrArg Prod.fst (serve_of_ok (Act.run_eq hrun)))

end Visit
end App
end OnAir
