import OnAir.App.Basic

/-!
# Admission

Who may use an endpoint. Owners show a login cookie, the media engine shows a key, and both are
checked before any field of a body is looked at and before the store hears of the request.
-/

namespace OnAir.App

open Http (Body Request Response)

def signedIn (app : App) (request : Request) : Act Login.Error Login.Identity :=
  app.flow.requireIdentity ((request.cookie? app.flow.loginCookie).map .text) request.remote

def owner (app : App) (request : Request) : Act RequestError Login.Identity :=
  (app.signedIn request).mapError .ofLogin

/-- Whether a request shows the key of the media engine. Without a key nothing is shown. -/
def showsKey (app : App) (request : Request) : Bool :=
  app.settings.internalApiKey ≠ "" &&
    (request.header? "x-api-key").getD "" = app.settings.internalApiKey

def engine (app : App) (request : Request) : Act RequestError Unit := do
  unless app.showsKey request do
    Act.note .warning ("Invalid API key attempt from " ++ request.remote)
    Act.fail (.failure .badKey)

/-- A request with a record: its body is read, then admission is decided, then the record is read
from the body, and only then is anything done. -/
def submitted {α β : Type} (request : Request) (gate : Act RequestError β)
    (reader : Validation.Fields → Validation.Checked α) (act : β → α → Act RequestError Response) :
    Act RequestError Response := do
  let body ← Act.ofExcept ((Body.ofRequest request).mapError .ofBody)
  let who ← gate
  let record ← Act.ofExcept ((body.read reader).mapError .invalid)
  act who record

end OnAir.App
