import OnAir.App.Handlers
import OnAir.Http.Request

/-!
# Serving requests

From a request to its response. Every request is answered, and every answer is protected by
headers but the one to what nobody foresaw. The log tells when a request comes in, what went wrong
with it, and how it was answered, unless nobody foresaw that.
-/

namespace OnAir.App

open Http (Request Response)

/-- The address of a path on the host a request names, or on the server if it names no proper one.
What would end the path is quoted. -/
def addressOn (request : Request) (path : String) : String :=
  let host := match request.header? "host" with
    | some host => if Http.isHost host.toList then host else request.server
    | none => request.server
  let path := Url.quote (fun c => c ≠ '?' ∧ c ≠ '#') path.toList
  let query := if request.query = [] then [] else '?' :: Utf8.decodeLossy request.query
  "http://" ++ host ++ String.ofList (path ++ query)

def respond (app : App) (request : Request) : Act RequestError Response :=
  match Http.destination request.method request.path with
  | .endpoint endpoint => app.handle endpoint request
  | .wrongMethod allowed =>
    pure ((Response.detail 405 "Method Not Allowed").withHeader "allow" allowed)
  | .elsewhere path => pure (.redirect 307 (addressOn request path))
  | .nowhere => pure (.detail 404 "Not Found")

/-- What a request is answered with. What nobody foresaw is answered past the headers. -/
def answer (app : App) (request : Request) : Except RequestError Response → Response
  | .ok response => response.guarded
  | .error e =>
    let response := app.answerError request e
    if e.isUnforeseen then response else response.guarded

def report (app : App) (request : Request) (traceback : Unforeseen → String) :
    Except RequestError Response → List Log.Entry
  | .ok response => [request.departure response.status]
  | .error e =>
    errorLines request traceback e
      ++ if e.isUnforeseen then [] else [request.departure (app.answerError request e).status]

def serve (app : App) (request : Request) (w : World) : Response × World :=
  let (result, w) := (app.respond request).run (w.noting [request.arrival])
  (app.answer request result, w.noting (app.report request w.runtime.traceback result))

section
variable {app : App} {request : Request} {w w' : World}

theorem serve_of_run {result : Except RequestError Response}
    (h : (app.respond request).run (w.noting [request.arrival]) = (result, w')) :
    app.serve request w
      = (app.answer request result, w'.noting (app.report request w'.runtime.traceback result)) := by
  unfold serve
  rw [h]

theorem serve_of_ok {response : Response}
    (h : (app.respond request).run (w.noting [request.arrival]) = (.ok response, w')) :
    app.serve request w = (response.guarded, w'.noting [request.departure response.status]) :=
  serve_of_run h

theorem answer_error_status (e : RequestError) :
    (app.answer request (.error e)).status = (app.answerError request e).status := by
  cases e <;> rfl

end
end OnAir.App
