import OnAir.Answer
import OnAir.Channel.Service
import OnAir.Config.Settings
import OnAir.Http.Body
import OnAir.Http.Response
import OnAir.Ingest
import OnAir.Login.Flow

/-!
# The application

What the parts of a running application share, and the ways in which a request can end without a
result. Failures meant for the client keep their wording; whatever nobody foresaw is answered in
one and the same way, so that it tells nothing. What it was is told to the log alone.
-/

namespace OnAir

open Http (Request Response)

structure App where
  settings : Settings
  version : String
  pool : Store.PoolOwner
  flow : Login.Flow
  deriving DecidableEq, Repr

/-- How a request can end without a result. -/
inductive RequestError
  | failure (f : Failure)
  | invalid (complaints : List Validation.Complaint)
  | unreadable
  | unforeseen (u : Unforeseen)
  deriving DecidableEq, Repr

namespace RequestError

def isUnforeseen : RequestError → Bool
  | .unforeseen _ => true
  | _ => false

def ofService : Channel.ServiceError → RequestError
  | .failure f => .failure f
  | .unforeseen e => .unforeseen ⟨e.name, e.message⟩

def ofIngest : Ingest.Error → RequestError
  | .service e => ofService e
  | .url e => .unforeseen ⟨"ValueError", e.message⟩
  | .surrogate e => .unforeseen ⟨e.name, e.message⟩

def ofLogin : Login.Error → RequestError
  | .failure f | .failed f _ => .failure f
  | .sealing e => .unforeseen ⟨e.name, e.message⟩
  | .unsealing e => .unforeseen ⟨e.name, e.message⟩
  | .surrogate e => .unforeseen ⟨e.name, e.message⟩
  | .provider e => .unforeseen ⟨e.name, e.message⟩

def ofBody : Http.BodyError → RequestError
  | .malformed complaint => .invalid [complaint]
  | .unreadable => .unreadable

end RequestError

namespace App

def make (settings : Settings) (storeUrl : String) (environ : List (String × String)) : App where
  settings := settings
  version := Answer.version environ
  pool := .make storeUrl settings.poolMaxSize settings.commandTimeout
  flow := .make (Seal.Sealer.make settings.cookieSecret).toOption
    { clientId := settings.clientId
      clientSecret := settings.clientSecret
      authorizeUrl := settings.authorizeUrl
      tokenUrl := settings.tokenUrl
      userUrl := settings.userUrl
      redirectUrl := settings.redirectUrl
      scopes := settings.scopes }
    settings.stateCookieName settings.loginCookieName settings.avatarBaseUrl

def success (app : App) (results : Json) : Response :=
  .document 200 (Answer.Envelope.success (some (.text app.version)) results).toJson

/-- The response to a request that has nothing to tell but that it went well. -/
def done (app : App) : Response :=
  app.success (.str "OK")

def refusal (app : App) (request : Request) (status : Nat) (code message : String) : Response :=
  .document status
    (Answer.Envelope.failure (some (.text app.version)) code request.reference message).toJson

def failed (app : App) (request : Request) (f : Failure) : Response :=
  app.refusal request f.status f.code f.message

def invalidCode : String := "E_INVALID_PARAMS"

def apology (request : Request) : String :=
  "Internal server error (request_id: " ++ request.id ++ ")"

def answerError (app : App) (request : Request) : RequestError → Response
  | .failure f => app.failed request f
  | .invalid complaints =>
    app.refusal request 422 invalidCode (Validation.Complaint.listShown complaints)
  | .unreadable => .detail 400 "There was an error parsing the body"
  | .unforeseen _ => app.refusal request 500 Answer.internalCode (apology request)

-- -----------------------------------------------------------------------------
-- The log
-- -----------------------------------------------------------------------------

/-- The line about a failure. It names where the failure came up and where the request came from. -/
def failureLine (request : Request) (f : Failure) : Log.Entry :=
  ⟨if 500 ≤ f.status then .error else .warning,
    f.code ++ " " ++ request.reference ++ " msg=" ++ f.message ++ " remote=" ++ request.remote
      ++ " path=" ++ request.shownPath ++ " caller=" ++ f.caller⟩

def refusalLine (request : Request) (code message caller : String) : Log.Entry :=
  ⟨.warning, code ++ " " ++ request.reference ++ "\n" ++ message ++ " caller=" ++ caller⟩

def unforeseenLine (request : Request) (u : Unforeseen) (traceback : String) : Log.Entry :=
  ⟨.error, "[" ++ request.id ++ "] Unhandled exception in " ++ request.purpose ++ " - Duration: "
    ++ request.duration ++ "ms - Error: " ++ u.name ++ ": " ++ u.text ++ "\nTraceback:\n"
    ++ traceback⟩

def errorLines (request : Request) (traceback : Unforeseen → String) :
    RequestError → List Log.Entry
  | .failure f => [failureLine request f]
  | .invalid complaints =>
    let shown := Validation.Complaint.listShown complaints
    [⟨.warning, "Validation error: path=" ++ request.shownPath ++ " method=" ++ request.method
        ++ " errors=" ++ shown⟩,
      refusalLine request invalidCode shown
        "streamgate.api.errors:validation_exception_handler:40"]
  | .unreadable => []
  | .unforeseen u =>
    [unforeseenLine request u (traceback u),
      refusalLine request Answer.internalCode (apology request) "streamgate.main:dispatch:63"]

end App
end OnAir
