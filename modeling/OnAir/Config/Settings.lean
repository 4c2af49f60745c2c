import OnAir.Config.StoreUrl
import OnAir.Number.Double

/-!
# Settings

What the configuration means for the application. Values are trimmed; an empty one gives way to its
default. Four settings are numbers and may be refused.
-/

namespace OnAir

/-- The settings of the application. -/
structure Settings where
  debug : Bool
  apiHost : String
  apiPort : Int
  apiWorkers : Int
  baseUrl : String
  clientId : String
  clientSecret : String
  authorizeUrl : String
  tokenUrl : String
  userUrl : String
  scopes : List String
  cookieSecret : String
  cookieSecure : Bool
  stateCookieName : String
  loginCookieName : String
  rtmpBase : String
  avatarBaseUrl : String
  thumbBaseUrl : String
  liveBaseUrl : String
  poolMaxSize : Int
  commandTimeout : Double
  internalApiKey : String
  deriving DecidableEq, Repr

namespace Settings

inductive ReadError
  | integer (e : Integer.ReadError)
  | notNumber (text : String)
  deriving DecidableEq, Repr

def ReadError.message : ReadError → String
  | .integer e => e.message
  | .notNumber text => "could not convert string to float: " ++ quoted text

/-- A switch: on if its text is `true` in any letter case. An empty text gives way to the default,
a blank one does not. -/
def flag (config : Config) (name : String) (default : Bool) : Bool :=
  let value := config.text name
  if value = "" then default else Text.lower (Text.trim value.toList) = "true".toList

def plain (config : Config) (name : String) : String :=
  trimmed (config.text name)

def orDefault (value default : String) : String :=
  if value = "" then default else value

def bare (config : Config) (name : String) : String :=
  withoutSlashes (plain config name)

def integer (config : Config) (name : String) (default : Int) : Except ReadError Int :=
  let value := plain config name
  if value = "" then .ok default else (Integer.read value.toList).mapError .integer

def number (config : Config) (name : String) (default : Double) : Except ReadError Double :=
  let value := plain config name
  if value = "" then .ok default
  else match Double.read? value.toList with
    | some x => .ok x
    | none => .error (.notNumber value)

def ofConfig (config : Config) : Except ReadError Settings := do
  let debug := flag config "DEBUG" false
  let apiPort ← integer config "API_PORT" 8080
  let apiWorkers ← integer config "API_WORKERS" 1
  let poolMaxSize ← integer config "PG_POOL_MAX_SIZE" 10
  let commandTimeout ← number config "PG_COMMAND_TIMEOUT" (.ofInt 5)
  let text := plain config
  let scopes := orDefault (text "OAUTH_SCOPES") "identify guilds"
  return {
    debug, apiPort, apiWorkers, poolMaxSize, commandTimeout
    apiHost := orDefault (text "API_HOST") "0.0.0.0"
    baseUrl := orDefault (bare config "BASE_URL") "http://localhost:8080"
    clientId := text "OAUTH_CLIENT_ID"
    clientSecret := text "OAUTH_CLIENT_SECRET"
    authorizeUrl :=
      orDefault (text "OAUTH_AUTHORIZE_URL") "https://discord.com/api/oauth2/authorize"
    tokenUrl := orDefault (text "OAUTH_TOKEN_URL") "https://discord.com/api/oauth2/token"
    userUrl := orDefault (text "OAUTH_USER_URL") "https://discord.com/api/users/@me"
    scopes := (Text.words scopes.toList).map String.ofList
    cookieSecret := text "COOKIE_SECRET"
    cookieSecure := flag config "COOKIE_SECURE" (!debug)
    stateCookieName := orDefault (text "STATE_COOKIE_NAME") "oauth_state"
    loginCookieName := orDefault (text "LOGIN_COOKIE_NAME") "login"
    rtmpBase := orDefault (text "RTMP_BASE") "rtmp://localhost/live"
    avatarBaseUrl := orDefault (bare config "AVATAR_BASE_URL") "/avatars"
    thumbBaseUrl := orDefault (bare config "THUMB_BASE_URL") "/thumbs"
    liveBaseUrl := orDefault (bare config "LIVE_BASE_URL") "/live"
    internalApiKey := text "INTERNAL_API_KEY" }

def loginConfigured (settings : Settings) : Bool :=
  settings.clientId ≠ ""

def cookiesConfigured (settings : Settings) : Bool :=
  settings.cookieSecret ≠ ""

def redirectUrl (settings : Settings) : String :=
  settings.baseUrl ++ "/oauth2/cb"

end Settings
end OnAir
