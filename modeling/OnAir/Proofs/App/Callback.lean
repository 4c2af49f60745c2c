import OnAir.Proofs.App.Beside
import OnAir.Proofs.App.Cookies
import OnAir.Proofs.Login.Consumption

/-!
# What the browser is told at the end of a login

Whoever comes back from a civil provider is sent on or refused, and either way told to forget the
state cookie. A provider need not be civil: if its token cannot be written into a header, the browser
is told nothing and keeps the cookie.
-/

namespace OnAir

open Act (Triple run)
open Http (Request Response SetCookie)
open Login (Consumes Flow Legible Presented)
open Seal (CookieChange)

namespace App

variable {app : App} {w : World} {date : Calendar.Date}

-- -----------------------------------------------------------------------------
-- Cookies
-- -----------------------------------------------------------------------------

/-- A response that first of all forgets a cookie, at a time that is a date. -/
structure Forgets (app : App) (name : String) (date : Calendar.Date) (response : Response) :
    Prop where
  status : response.status = 302 ∨ response.status = 400
  cookies : ∃ rest,
    response.cookies = ⟨name, "", 0, some date, app.settings.cookieSecure⟩ :: rest

theorem withCookies_forgets {name : String} {others : List CookieChange} {response : Response}
    (hname : Http.Cookie.isName name = true)
    (hothers : ∀ change ∈ others, Http.Cookie.isName change.name = true)
    (hdate : w.clock.date = .ok date) (hnone : response.cookies = [])
    (hstatus : response.status = 302 ∨ response.status = 400) :
    Triple (app.withCookies (.clear name :: others) response) w
      (fun response _ => Forgets app name date response) (fun _ _ => False) := by
  obtain ⟨rest, hrest⟩ := SetCookie.exists_mapM app.settings.cookieSecure hothers hdate
  refine Triple.bind (Q := fun now _ => now = w.clock) (Triple.of_run rfl rfl) ?_
  rintro _ v rfl
  rw [List.mapM_cons, SetCookie.ofChange_clear hname hdate, hrest]
  exact Triple.pure ⟨hstatus, rest, by simp [hnone]⟩

-- -----------------------------------------------------------------------------
-- The callback
-- -----------------------------------------------------------------------------

def shownState (app : App) (request : Request) : Option RawText :=
  (request.cookie? app.flow.stateCookie).map .text

/-- The request gets through to the provider. -/
def Passes (app : App) (request : Request) (w : World) : Prop :=
  app.flow.Admits ((request.parameter? "code").map .text) ((request.parameter? "state").map .text)
    (app.shownState request) w

theorem callback_forgets {request : Request} (h : Presented app.flow (app.shownState request))
    (hcivil : app.Passes request w → app.flow.Civil w)
    (hstate : Http.Cookie.isName app.flow.stateCookie = true)
    (hlogin : Http.Cookie.isName app.flow.loginCookie = true)
    (hdate : w.clock.date = .ok date) :
    Triple (app.callback request) w
      (fun response _ => Forgets app app.flow.stateCookie date response) (fun _ _ => False) := by
  have hclock : (run (app.comeBack request) w).2.clock = w.clock :=
    app.flow.callback_clock _ _ _ _
  have hends := Login.Flow.callback_ends request.remote (Login.legible_map _)
    (Login.legible_map _) h hcivil
  unfold callback
  -- the end of the login is looked at as a result, so that both ends carry their cookies
  refine Triple.bind (Q := fun result v => v.clock = w.clock
    ∧ ((∃ cookie, cookie.name = app.flow.loginCookie
        ∧ result = .ok ⟨.authenticated, some "/", [.clear app.flow.stateCookie, cookie]⟩)
      ∨ ∃ e, Login.Refused [.clear app.flow.stateCookie] e ∧ result = .error e))
    (Triple.of_run (Act.run_attempt _ w) ⟨hclock, ?_⟩) ?_
  · rcases hrun : run (app.comeBack request) w with ⟨e | step, v⟩
    · exact .inr ⟨e, hends.error hrun, rfl⟩
    · obtain ⟨cookie, hname, rfl⟩ := hends.ok hrun
      exact .inl ⟨cookie, hname, rfl⟩
  rintro _ v ⟨hv, ⟨cookie, hname, rfl⟩ | ⟨_, ⟨f, hf, rfl⟩, rfl⟩⟩
  · refine withCookies_forgets hstate (fun change hchange => ?_) (hv ▸ hdate) rfl (.inl rfl)
    rw [List.mem_singleton.mp hchange, hname]
    exact hlogin
  · refine Triple.bind (Q := fun _ v' => v'.clock = w.clock) (Triple.of_run rfl hv) ?_
    intro _ v' hv'
    exact withCookies_forgets hstate nofun (hv' ▸ hdate) rfl (.inr hf)

theorem serve_callback {request : Request}
    (hpath : Http.destination request.method request.path = .endpoint .callback)
    (h : Presented app.flow (app.shownState request))
    (hcivil : app.Passes request w → app.flow.Civil w)
    (hstate : Http.Cookie.isName app.flow.stateCookie = true)
    (hlogin : Http.Cookie.isName app.flow.loginCookie = true)
    (hdate : w.clock.date = .ok date) :
    Forgets app app.flow.stateCookie date (app.serve request w).1 := by
  have hcivil' : app.Passes request (w.noting [request.arrival]) →
      app.flow.Civil (w.noting [request.arrival]) := by
    rintro ⟨hconfigured, hcode, hopen⟩
    obtain ⟨hserved, huser, hstart, hstop⟩ := hcivil ⟨hconfigured, hcode, hopen⟩
    exact ⟨hserved, huser, hstart, hstop⟩
  have hforgets := callback_forgets (w := w.noting [request.arrival]) h hcivil' hstate hlogin hdate
  have hrespond : app.respond request = app.callback request := by
    unfold respond
    rw [hpath]
    rfl
  rw [← hrespond] at hforgets
  rcases hrun : run (app.respond request) (w.noting [request.arrival]) with ⟨e | response, v⟩
  · exact (hforgets.error hrun).elim
  · obtain ⟨hstatus, hcookies⟩ := hforgets.ok hrun
    rw [serve_of_ok hrun]
    exact ⟨hstatus, hcookies⟩

end App

/-- The state cookie is consumed by every callback with texts, and by every request to the callback's
address if the names of the cookies are names and the time is a date, unless the callback gets through
to a provider that is not civil. -/
theorem state_cookie_consumed (flow : Flow) (w : World) :
    (∀ code state stateCookie remote, Legible code → Legible state → Presented flow stateCookie →
        (flow.Admits code state stateCookie w → flow.Civil w) →
        Consumes flow (run (flow.callback code state stateCookie remote) w).1)
      ∧ ∀ (app : App) (request : Request) (date : Calendar.Date), app.flow = flow →
        Http.destination request.method request.path = .endpoint .callback →
        Presented flow (app.shownState request) →
        (app.Passes request w → flow.Civil w) →
        Http.Cookie.isName flow.stateCookie = true → Http.Cookie.isName flow.loginCookie = true →
        w.clock.date = .ok date →
        App.Forgets app flow.stateCookie date (app.serve request w).1 := by
  refine ⟨fun _ _ _ remote hcode hstate h hcivil =>
    Login.Flow.callback_consumes remote hcode hstate h hcivil, ?_⟩
  rintro app request date rfl hpath h hcivil hstate hlogin hdate
  exact App.serve_callback hpath h hcivil hstate hlogin hdate

/-- A user logs in, and somebody comes back without a cookie. -/
theorem state_cookie_consumed_login :
    ∃ (flow : Flow) (w : World) (cookie : RawText) (app : App) (request : Request)
      (date : Calendar.Date),
      flow.Admits (some "code") (some "state") (some cookie) w
        ∧ Consumes flow (run (flow.callback (some "code") (some "state") (some cookie) "::1") w).1
        ∧ App.Forgets app flow.stateCookie date (app.serve request w).1 := by
  obtain ⟨client, hconfigured, htokenUrl, huserUrl⟩ := Provider.exists_reachable
  obtain ⟨tokenBody, _, htokenBody, htoken⟩ := Provider.exists_token "t" (by decide)
  obtain ⟨userBody, _, huserBody, huser⟩ := Provider.exists_profile
  let clock : Instant := 1700000000000000
  let flow : Flow := ⟨some ⟨"secret"⟩, client, "state", "login", "/avatars"⟩
  let w : World := { Store.holding .empty with
    clock, provider := ⟨.response (.bare tokenBody), .response (.bare userBody)⟩ }
  have hflow : flow.sealer = some ⟨"secret"⟩ := rfl
  obtain ⟨cookie, hcookie, hopen⟩ := Login.Flow.exists_presented hflow "state"
    (by decide : 0 ≤ clock) (by decide)
  have hadmits : flow.Admits (some "code") (some "state") (some (.text cookie)) w :=
    ⟨hconfigured, rfl, ⟨"secret"⟩, .str "state", hflow, hopen, by decide⟩
  have hstart : 0 ≤ clock.wholeSeconds := by decide +kernel
  have hstop : clock.wholeSeconds < Nat.pow 2 64 := by decide +kernel
  have hcivil : flow.Civil w := by
    refine ⟨Provider.served_of_bare htokenUrl huserUrl htokenBody huserBody ?_, ?_, hstart, hstop⟩
    · rintro token hread
      cases htoken.symm.trans hread
      exact fun code hcode => by revert code; decide
    · rintro content user hcontent hread
      cases (Provider.content?_bare userBody).symm.trans hcontent
      cases huser.symm.trans hread
      rfl
  have hstateName : Http.Cookie.isName "state" = true := by decide
  have hloginName : Http.Cookie.isName "login" = true := by decide
  obtain ⟨date, hdate⟩ : ∃ date, clock.date = .ok date := exists_of_isOk (by decide +kernel)
  let settings : Settings := ⟨false, "", 0, 1, "", "", "", "", "", "", [], "", false, "state",
    "login", "", "", "", "", 1, .ofInt 5, "key"⟩
  let app : App := ⟨settings, "", .make "" 1 (.ofInt 5), flow⟩
  let request : Request := ⟨"", "GET", "/oauth2/cb", [], [], [], none, "", "", ""⟩
  obtain ⟨hcallback, hserve⟩ := state_cookie_consumed flow w
  exact ⟨flow, w, cookie, app, request, date, hadmits,
    hcallback _ _ _ "::1" ⟨"code", rfl⟩ ⟨"state", rfl⟩ hcookie fun _ => hcivil,
    hserve app request date rfl (by decide) .absent (fun _ => hcivil) hstateName hloginName hdate⟩

/-- A browser that comes back with the right state may be told nothing, although the provider has
answered in the regular way: with a token that is not in ASCII. -/
theorem state_cookie_kept : ¬∀ (flow : Flow) (code state stateCookie : Option RawText)
    (remote : String) (w : World), Legible code → Legible state → Presented flow stateCookie →
    (∀ fault, w.provider.token = .fault fault → fault.foreign = false) →
    (∀ fault, w.provider.user = .fault fault → fault.foreign = false) →
    Consumes flow (run (flow.callback code state stateCookie remote) w).1 := by
  intro hclaim
  obtain ⟨client, hconfigured, htokenUrl, endpoint, huserUrl, -⟩ := Provider.exists_reachable
  obtain ⟨tokenBody, -, -, htoken⟩ := Provider.exists_token "é" (by decide)
  let flow : Flow := ⟨some ⟨"secret"⟩, client, "state", "login", "/avatars"⟩
  let w : World := { Store.holding .empty with
    provider := ⟨.response (.bare tokenBody), .response (.bare [])⟩ }
  have hflow : flow.sealer = some ⟨"secret"⟩ := rfl
  obtain ⟨cookie, hcookie, hopen⟩ := Login.Flow.exists_presented hflow "state"
    (Int.le_refl 0) (by decide)
  obtain ⟨v, hexchange, -⟩ := Provider.exchange_of_bare (w := w) htokenUrl rfl htoken "code"
  have hbearer : Provider.bearerAuthorization (.str "é") = .error ⟨7, 1, 233⟩ := by decide +kernel
  have hend := Login.Flow.callback_unwritable (w := w) "::1" hflow hconfigured rfl hopen
    hexchange ⟨endpoint, huserUrl⟩ hbearer
  obtain ⟨rest, hrest⟩ := hclaim flow (some "code") (some "state") (some (.text cookie)) "::1" w
    ⟨"code", rfl⟩ ⟨"state", rfl⟩ hcookie nofun nofun
  rw [hend] at hrest
  cases hrest

end OnAir
