import OnAir.App.Serve
import OnAir.Proofs.Http.Route
import OnAir.Proofs.Store.Statement

/-!
# Requests that nobody vouches for

Owners and the media engine are let in before a field of a body is read and before the store hears of
a request. Without a login, and without the key, a request below their addresses fails whatever it
asks for, and its answer depends on nothing but the request and the time.
-/

namespace OnAir

open Act (Idle Refused run)
open Http (Endpoint Request Response)

-- -----------------------------------------------------------------------------
-- Logins and keys
-- -----------------------------------------------------------------------------

theorem Login.Flow.exists_requireIdentity_idle (flow : Login.Flow) (cookie : Option RawText)
    (remote : String) (clock : Instant) :
    ∃ result lines, Idle clock (flow.requireIdentity cookie remote) result lines := by
  unfold Login.Flow.requireIdentity
  rcases hunseal : flow.unsealIdentity cookie clock with e | _ | identity
  · exact ⟨_, _, Idle.now.bind (by rw [hunseal]; exact .fail _)⟩
  · exact ⟨_, _, Idle.now.bind (by rw [hunseal]; exact (Idle.note _ _).bind (.fail _))⟩
  · exact ⟨_, _, Idle.now.bind (by rw [hunseal]; exact .pure _)⟩

namespace App

variable {app : App} {request : Request} {w : World} {clock : Instant}

theorem owner_refused
    (h : ∀ identity, (run (app.signedIn request) w).1 ≠ .ok identity) :
    Refused w.clock (app.owner request) := by
  obtain ⟨result, lines, hidle⟩ := app.flow.exists_requireIdentity_idle
    ((request.cookie? app.flow.loginCookie).map .text) request.remote w.clock
  rw [signedIn, hidle rfl] at h
  cases result with
  | error e => exact Refused.mapError _ ⟨e, lines, hidle⟩
  | ok identity => exact absurd rfl (h identity)

theorem not_showsKey
    (h : request.header? "x-api-key" ≠ some app.settings.internalApiKey
      ∨ app.settings.internalApiKey = "") : app.showsKey request = false := by
  rw [showsKey, Bool.and_eq_false_iff, decide_eq_false_iff_not, decide_eq_false_iff_not]
  by_cases hempty : app.settings.internalApiKey = ""
  · exact .inl fun hne => hne hempty
  · right
    have hother := h.resolve_right hempty
    cases hheader : request.header? "x-api-key" with
    | none => exact fun heq => hempty heq.symm
    | some key => exact fun heq => hother (by rw [hheader, ← heq]; rfl)

theorem engine_refused (h : app.showsKey request = false) : Refused clock (app.engine request) := by
  rw [engine, h]
  exact .bind_ok (.note _ _) (.fail _)

/-- What a request submits is of no use to somebody who is not let in, and neither is a body that
cannot be read. -/
theorem submitted_refused {α β : Type} {gate : Act RequestError β}
    {reader : Validation.Fields → Validation.Checked α} {act : β → α → Act RequestError Response}
    (h : Refused clock gate) : Refused clock (submitted request gate reader act) := by
  unfold submitted
  cases (Http.Body.ofRequest request).mapError RequestError.ofBody with
  | error e => exact Refused.bind ⟨e, [], .ofExcept _⟩ _
  | ok body => exact .bind_ok (.ofExcept _) (h.bind _)

-- -----------------------------------------------------------------------------
-- Endpoints
-- -----------------------------------------------------------------------------

theorem handle_refused_owner {endpoint : Endpoint} (hendpoint : endpoint.isOwners)
    (h : Refused clock (app.owner request)) : Refused clock (app.handle endpoint request) := by
  cases endpoint with
  | listChannels | deleteChannel => exact h.bind _
  | createChannel | setAnnounce | setOwnerAnnounce => exact submitted_refused h
  | _ => cases hendpoint

theorem handle_refused_engine {endpoint : Endpoint} (hendpoint : endpoint.isEngines)
    (h : Refused clock (app.engine request)) : Refused clock (app.handle endpoint request) := by
  cases endpoint with
  | putThumbnail => exact h.bind _
  | admitPublisher | admitChallenger => exact submitted_refused h
  | _ => cases hendpoint

/-- A request that nobody vouches for: below the address of owners it comes from nobody, below the
address of the media engine it does not show the key, or there is no key to show. -/
inductive Unvouched (app : App) (request : Request) (w : World) : Prop
  | owner (hpath : "/api/".toList <+: request.path.toList)
    (hnobody : ∀ identity, (run (app.signedIn request) w).1 ≠ .ok identity)
  | engine (hpath : "/ingest/".toList <+: request.path.toList)
    (hkey : request.header? "x-api-key" ≠ some app.settings.internalApiKey
      ∨ app.settings.internalApiKey = "")

theorem Unvouched.handle_refused (h : app.Unvouched request w) {endpoint : Endpoint}
    (hendpoint : Http.destination request.method request.path = .endpoint endpoint) :
    Refused w.clock (app.handle endpoint request) := by
  cases h with
  | owner hpath hnobody =>
    exact handle_refused_owner (Http.isOwners_of_path hpath hendpoint) (owner_refused hnobody)
  | engine hpath hkey =>
    exact handle_refused_engine (Http.isEngines_of_path hpath hendpoint)
      (engine_refused (not_showsKey hkey))

-- -----------------------------------------------------------------------------
-- Answers
-- -----------------------------------------------------------------------------

theorem error_status (f : Failure) : 400 ≤ f.status := by
  cases f <;> simp [Failure.status]

/-- Whatever a request ends with in place of a result, it is answered with the status of an error. -/
theorem answerError_status (e : RequestError) : 400 ≤ (app.answerError request e).status := by
  cases e with
  | failure f => exact error_status f
  | invalid => exact (by decide : 400 ≤ 422)
  | unreadable => exact (by decide : 400 ≤ 400)
  | unforeseen => exact (by decide : 400 ≤ 500)

theorem serve_of_error {e : RequestError} {w' : World}
    (h : run (app.respond request) (w.noting [request.arrival]) = (.error e, w')) :
    400 ≤ (app.serve request w).1.status ∧ (app.serve request w).1.cookies = []
      ∧ (app.serve request w).2
        = w'.noting (app.report request w'.runtime.traceback (.error e)) := by
  rw [serve_of_run h]
  refine ⟨?_, ?_, rfl⟩
  · rw [answer_error_status]
    exact answerError_status e
  · cases e <;> rfl

/-- The request is answered with this response in every world of this time, and each time only the
log tells of it. -/
def Answers (app : App) (request : Request) (clock : Instant) (response : Response) : Prop :=
  ∃ lines : (Unforeseen → String) → List Log.Entry, ∀ w : World, w.clock = clock →
    app.serve request w = (response, { w with log := w.log ++ lines w.runtime.traceback })

theorem answers_of_idle {result : Except RequestError Response} {lines : List Log.Entry}
    (h : Idle clock (app.respond request) result lines) :
    app.Answers request clock (app.answer request result) := by
  refine ⟨fun traceback => request.arrival :: (lines ++ app.report request traceback result),
    fun w hw => ?_⟩
  rw [serve_of_run (h (w := w.noting [request.arrival]) hw)]
  simp [World.noting]

theorem answers_of_refused (h : Refused clock (app.respond request)) :
    ∃ response, 400 ≤ response.status ∧ app.Answers request clock response := by
  obtain ⟨e, lines, hidle⟩ := h
  refine ⟨_, ?_, answers_of_idle hidle⟩
  rw [answer_error_status]
  exact answerError_status e

theorem answers_of_pure {response : Response} (h : app.respond request = pure response) :
    app.Answers request clock response.guarded := by
  have hidle : Idle clock (app.respond request) (.ok response) [] := by
    rw [h]
    exact .pure response
  exact answers_of_idle hidle

theorem respond_eq {endpoint : Endpoint}
    (h : Http.destination request.method request.path = .endpoint endpoint) :
    app.respond request = app.handle endpoint request := by
  unfold respond
  rw [h]

end App

/-- A request that nobody vouches for is declined, whatever its method, its query, its headers and
its body. Its answer is the same over any tables and under any faults, and nothing but the log tells
of it: no connection is acquired, no random byte is drawn, and all tables stay as they are. -/
theorem unvouched_reach_nothing (app : App) (request : Request) {w : World}
    (h : app.Unvouched request w) :
    ∃ response, 300 ≤ response.status ∧ app.Answers request w.clock response := by
  cases hdestination : Http.destination request.method request.path with
  | endpoint endpoint =>
    have hrefused := h.handle_refused hdestination
    rw [← App.respond_eq hdestination] at hrefused
    obtain ⟨response, hstatus, hanswers⟩ := App.answers_of_refused hrefused
    exact ⟨response, Nat.le_trans (by decide) hstatus, hanswers⟩
  | wrongMethod allowed =>
    exact ⟨_, (by decide : 300 ≤ 405), App.answers_of_pure (by unfold App.respond; rw [hdestination])⟩
  | elsewhere path =>
    exact ⟨_, (by decide : 300 ≤ 307), App.answers_of_pure (by unfold App.respond; rw [hdestination])⟩
  | nowhere =>
    exact ⟨_, (by decide : 300 ≤ 404), App.answers_of_pure (by unfold App.respond; rw [hdestination])⟩

/-- Somebody with a forged cookie cannot delete a channel, and somebody who guesses at the key is not
let in as a publisher, although the store is about to fail. -/
theorem unvouched_reach_nothing_forged : ∃ (app : App) (request other : Request) (w : World),
    app.Unvouched request w ∧ app.Unvouched other w
      ∧ w.tables.channels ≠ [] ∧ w.faults ≠ []
      ∧ (∃ response, 300 ≤ response.status ∧ app.Answers request w.clock response)
      ∧ ∃ response, 300 ≤ response.status ∧ app.Answers other w.clock response := by
  let settings : Settings := ⟨false, "", 0, 1, "", "", "", "", "", "", [], "", false, "state",
    "login", "", "", "", "", 1, .ofInt 5, "key"⟩
  let flow : Login.Flow := ⟨some ⟨"secret"⟩, ⟨"", "", "", "", "", "", []⟩, "state", "login", ""⟩
  let app : App := ⟨settings, "", .make "" 1 (.ofInt 5), flow⟩
  let request : Request :=
    ⟨"", "DELETE", "/api/defs/show", [], [("cookie", "login=a.b.c")], [], none, "", "", ""⟩
  let other : Request :=
    ⟨"", "POST", "/ingest/rtmp", [], [("x-api-key", "guess")], [123], none, "", "", ""⟩
  let tables : Store.Tables := ⟨[⟨"ann", true⟩], [⟨"ann", "show", "k", none, true⟩], []⟩
  let w : World :=
    { Store.holding tables with faults := [⟨.acquire, 1, ⟨.outage, "", ""⟩⟩] }
  have hend : (run (app.signedIn request) w).1.isOk = false := by decide +kernel
  have hrequest : app.Unvouched request w := .owner (by decide) fun identity hidentity => by
    rw [hidentity] at hend
    cases hend
  have hother : app.Unvouched other w := .engine (by decide) (.inl (by decide))
  exact ⟨app, request, other, w, hrequest, hother, by decide, by decide,
    unvouched_reach_nothing app request hrequest, unvouched_reach_nothing app other hother⟩

end OnAir
