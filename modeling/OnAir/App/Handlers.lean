import OnAir.App.Admission
import OnAir.Directory
import OnAir.Http.Route
import OnAir.Submission

/-!
# Handlers

What the application does for each endpoint. Endpoints of the browser's login answer with redirects
and bare documents, the directory with a bare list, all others in an envelope.
-/

namespace OnAir.App

open Http (Endpoint Request Response SetCookie)
open Submission (AnnounceChange ChallengeAttempt NewChannel PublishAttempt)

/-- A response that changes cookies. A cookie that cannot be written spoils the response. -/
def withCookies (app : App) (changes : List Seal.CookieChange) (response : Response) :
    Act RequestError Response := do
  let now ← Act.now
  match changes.mapM (SetCookie.ofChange · app.settings.cookieSecure now) with
  | .ok cookies => return { response with cookies := response.cookies ++ cookies }
  | .error e => Act.fail (.unforeseen ⟨e.name, e.message⟩)

-- -----------------------------------------------------------------------------
-- Login
-- -----------------------------------------------------------------------------

def initiate (app : App) : Act RequestError Response := do
  let step ← app.flow.initiate.mapError .ofLogin
  app.withCookies step.cookies (.redirect 302 (step.redirect.getD ""))

def comeBack (app : App) (request : Request) : Act Login.Error Login.LoginStep :=
  app.flow.callback ((request.parameter? "code").map .text) ((request.parameter? "state").map .text)
    ((request.cookie? app.flow.stateCookie).map .text) request.remote

/-- Takes the browser back from the identity provider. A failure changes cookies too, so it is answered
here. -/
def callback (app : App) (request : Request) : Act RequestError Response := do
  match ← Act.attempt (app.comeBack request) with
  | .ok step => app.withCookies step.cookies (.redirect 302 (step.redirect.getD "/"))
  | .error (.failed f cookies) =>
    Act.enter (failureLine request f)
    app.withCookies cookies (app.failed request f)
  | .error e => Act.fail (.ofLogin e)

def logout (app : App) : Act RequestError Response :=
  app.withCookies app.flow.logout.cookies (.document 200 (.obj []))

def user (app : App) (request : Request) : Act RequestError Response := do
  let shown := (request.cookie? app.flow.loginCookie).map .text
  let identity ← (app.flow.readIdentity shown).mapError .ofLogin
  let document := identity.toJson
  if document.isBroken then
    let e := Answer.WriteError.brokenText
    Act.fail (.unforeseen ⟨e.name, e.message⟩)
  return .document 200 document

-- -----------------------------------------------------------------------------
-- Channels
-- -----------------------------------------------------------------------------

def listChannels (app : App) (request : Request) : Act RequestError Response := do
  let owner ← app.owner request
  let channels ← (Channel.Service.list app.settings.rtmpBase owner.id).mapError .ofService
  return app.success (.arr (channels.map (·.toJson)))

def createChannel (app : App) (request : Request) : Act RequestError Response :=
  submitted request (app.owner request) NewChannel.read fun owner (channel : NewChannel) => do
    let definition ←
      (Channel.Service.create app.settings.rtmpBase owner.id channel.name).mapError .ofService
    return app.success definition.toJson

def setAnnounce (app : App) (name : String) (request : Request) : Act RequestError Response :=
  submitted request (app.owner request) AnnounceChange.read
    fun owner (change : AnnounceChange) => do
      (Channel.Service.setAnnounce owner.id name change.announce).mapError .ofService
      return app.done

def deleteChannel (app : App) (name : String) (request : Request) : Act RequestError Response := do
  let owner ← app.owner request
  (Channel.Service.delete owner.id name).mapError .ofService
  return app.done

def setOwnerAnnounce (app : App) (request : Request) : Act RequestError Response :=
  submitted request (app.owner request) AnnounceChange.read
    fun owner (change : AnnounceChange) => do
      (Channel.Service.setOwnerAnnounce owner.id change.announce).mapError .ofService
      return app.done

-- -----------------------------------------------------------------------------
-- Viewers
-- -----------------------------------------------------------------------------

def directory (app : App) : Act RequestError Response := do
  let entries ←
    (Directory.list app.settings.thumbBaseUrl app.settings.liveBaseUrl).mapError .ofService
  return .document 200 (.arr (entries.map (·.toJson)))

def thumbnail (name : String) : Act RequestError Response := do
  let picture ← (Directory.thumbnail name).mapError .ofService
  return .of 200 (.picture picture)

-- -----------------------------------------------------------------------------
-- The media engine
-- -----------------------------------------------------------------------------

def admitPublisher (app : App) (request : Request) : Act RequestError Response :=
  submitted request (app.engine request) PublishAttempt.read fun _ (attempt : PublishAttempt) => do
    let url := attempt.url.getD ""
    let auth ← (if url.isEmpty then Ingest.byKey (attempt.name.getD "") attempt.key
      else Ingest.byUrl url).mapError .ofIngest
    return app.success auth.toJson

def admitChallenger (app : App) (request : Request) : Act RequestError Response :=
  submitted request (app.engine request) ChallengeAttempt.read
    fun _ (attempt : ChallengeAttempt) => do
      let auth ←
        (Ingest.byChallenge attempt.ftlId attempt.nonce attempt.digest).mapError .ofIngest
      return app.success auth.toJson

def putThumbnail (app : App) (name : String) (request : Request) : Act RequestError Response := do
  app.engine request
  (Directory.putThumbnail name request.body).mapError .ofService
  return app.done

-- -----------------------------------------------------------------------------
-- All endpoints
-- -----------------------------------------------------------------------------

def handle (app : App) (endpoint : Endpoint) (request : Request) : Act RequestError Response :=
  match endpoint with
  | .initiate => app.initiate
  | .callback => app.callback request
  | .logout => app.logout
  | .user => app.user request
  | .listChannels => app.listChannels request
  | .createChannel => app.createChannel request
  | .setAnnounce name => app.setAnnounce name request
  | .deleteChannel name => app.deleteChannel name request
  | .setOwnerAnnounce => app.setOwnerAnnounce request
  | .directory => app.directory
  | .thumbnail name => thumbnail name
  | .admitPublisher => app.admitPublisher request
  | .admitChallenger => app.admitChallenger request
  | .putThumbnail name => app.putThumbnail name request
  | .health => pure (.document 200 (.obj [("status", .str "ok")]))

end OnAir.App
