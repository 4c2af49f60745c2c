import OnAir.Failure
import OnAir.Login.State
import OnAir.Provider.Client
import OnAir.Seal.Sealer

/-!
# The login flow

A login begins with a sealed state cookie and a trip to the identity provider. The browser comes
back with a code and the state; if the state matches the cookie, the code is exchanged for a token,
the token for a profile, and the profile is sealed into the login cookie. The state cookie is
consumed whatever the outcome.
-/

namespace OnAir.Login

open Seal (CookieChange SealError Sealer UnsealError)

def stateLifetime : Int := 15 * 60

def loginLifetime : Int := 30 * 24 * 60 * 60

/-- What a login needs: a sealer, a provider, the names of the two cookies and the address of
pictures. Without a sealer nobody can log in. -/
structure Flow where
  sealer : Option Sealer
  provider : Provider.Client
  stateCookie : String
  loginCookie : String
  avatarBase : String
  deriving DecidableEq, Repr

/-- A flow; slashes at the end of the address of pictures do not count. -/
def Flow.make (sealer : Option Sealer) (provider : Provider.Client)
    (stateCookie loginCookie avatarBase : String) : Flow :=
  ⟨sealer, provider, stateCookie, loginCookie, withoutSlashes avatarBase⟩

/-- The end of one request of the flow: the state reached, where the browser goes, and what happens
to its cookies. -/
structure LoginStep where
  state : State
  redirect : Option String
  cookies : List CookieChange
  deriving DecidableEq, Repr

/-- How the flow can fail: with a failure for the client and changes of cookies, or in a way nobody
foresaw. -/
inductive Error
  | failure (f : Failure)
  | failed (f : Failure) (cookies : List CookieChange)
  | sealing (e : SealError)
  | unsealing (e : UnsealError)
  | surrogate (e : SurrogateError)
  | provider (e : Provider.Error)
  deriving DecidableEq, Repr

def newState {ε : Type} : Act ε String :=
  (fun bytes => String.ofList (Base64.encode Base64.urlSafe bytes)) <$> Act.draw 9

namespace Flow

def configured (flow : Flow) : Bool :=
  flow.sealer.isSome && flow.provider.configured

/-- The sealer of a flow with which somebody can log in; otherwise a failure that carries changes of
cookies. -/
def requireConfigured (flow : Flow) (cookies : List CookieChange) : Act Error Sealer :=
  match flow.sealer with
  | some sealer =>
    if flow.provider.configured then pure sealer else Act.fail (.failed .notConfigured cookies)
  | none => Act.fail (.failed .notConfigured cookies)

def sealCookie (sealer : Sealer) (name : String) (value : Json) (lifetime : Int) :
    Act Error CookieChange := do
  let now ← Act.now
  Act.ofExcept ((sealer.cookie name value lifetime now).mapError .sealing)

def initiate (flow : Flow) : Act Error LoginStep := do
  let sealer ← flow.requireConfigured []
  let state ← newState
  let cookie ← sealCookie sealer flow.stateCookie (.str state) stateLifetime
  return ⟨.pending, some (flow.provider.authorizationUrl state), [cookie]⟩

/-- Refuses a callback because of its state; the reason is only logged. -/
def mismatch {α : Type} (consumed : List CookieChange) (remote reason : String) : Act Error α := do
  Act.note .warning ("[oauth] error: " ++ remote ++ ": " ++ reason)
  Act.fail (.failed .stateMismatch consumed)

/-- A request to the provider whose refusal is logged and becomes a failure for the client. -/
def consulting {α : Type} (f : Failure) (consumed : List CookieChange) (remote : String)
    (act : Act Provider.Error α) : Act Error α :=
  act.handle fun
    | .refused r => do
      Act.note .error ("[oauth] error: " ++ remote ++ ": " ++ r.message)
      Act.fail (.failed f consumed)
    | e => Act.fail (.provider e)

/-- Whether the sealed state is the one that came back; a missing one counts as empty. -/
def stateMatches (expected : Json) (state : Option RawText) : Except SurrogateError Bool :=
  match expected with
  | .str s => do
    let expected ← s.proper
    let state ← (state.getD "").proper
    return Utf8.ofString expected = Utf8.ofString state
  | _ => .ok false

def checkState (flow : Flow) (sealer : Sealer) (state stateCookie : Option RawText)
    (consumed : List CookieChange) (remote : String) : Act Error Unit := do
  let token := stateCookie.getD ""
  let current : State := if token.isEmpty then .unauthenticated else .pending
  if current.canMove .authenticated then
    let now ← Act.now
    match sealer.unseal token flow.stateCookie now with
    | .error e =>
      if e.isRefusal then mismatch consumed remote ("state cookie rejected: " ++ e.message)
      else Act.fail (.unsealing e)
    | .ok expected =>
      match stateMatches expected state with
      | .error e => Act.fail (.surrogate e)
      | .ok true => return
      | .ok false => mismatch consumed remote "state mismatch"
  else mismatch consumed remote "no state cookie"

def callback (flow : Flow) (code state stateCookie : Option RawText) (remote : String) :
    Act Error LoginStep := do
  let consumed := [CookieChange.clear flow.stateCookie]
  let sealer ← flow.requireConfigured consumed
  let code := code.getD ""
  if code.isEmpty then Act.fail (.failed .missingCode consumed)
  flow.checkState sealer state stateCookie consumed remote
  let token ← consulting .exchange consumed remote (flow.provider.exchange code)
  let user ← consulting .profile consumed remote (flow.provider.profile token)
  Act.note .info ("[oauth] login for user " ++ user.id.filled ++ " from " ++ remote)
  let cookie ← sealCookie sealer flow.loginCookie user.toJson loginLifetime
  return ⟨.authenticated, some "/", consumed ++ [cookie]⟩

def logout (flow : Flow) : LoginStep :=
  ⟨.loggedOut, none, [CookieChange.clear flow.loginCookie]⟩

/-- The identity in a login cookie, if it is somebody's. A cookie that does not open, or holds no
identity, is as good as none. -/
def unsealIdentity (flow : Flow) (loginCookie : Option RawText) (now : Instant) :
    Except UnsealError (Option Identity) :=
  match flow.sealer with
  | none => .ok none
  | some sealer =>
    match sealer.unseal (loginCookie.getD "") flow.loginCookie now with
    | .error e => if e.isTolerated then .ok none else .error e
    | .ok payload =>
      match Identity.ofJson? payload with
      | .error _ => .ok none
      | .ok identity => .ok (if identity.isAnonymous then none else some identity)

def withAvatar (flow : Flow) (identity : Identity) : Identity :=
  if identity.avatar.isEmpty then identity
  else
    { identity with
      avatar := .text (flow.avatarBase ++ "/") ++ identity.id ++ .text "/" ++ identity.avatar
        ++ .text ".png" }

def readIdentity (flow : Flow) (loginCookie : Option RawText) : Act Error Identity := do
  let now ← Act.now
  match flow.unsealIdentity loginCookie now with
  | .error e => Act.fail (.unsealing e)
  | .ok none => return .anonymous
  | .ok (some identity) => return flow.withAvatar identity

def requireIdentity (flow : Flow) (loginCookie : Option RawText) (remote : String) :
    Act Error Identity := do
  let now ← Act.now
  match flow.unsealIdentity loginCookie now with
  | .error e => Act.fail (.unsealing e)
  | .ok none => do
    Act.note .warning ("authentication failed for " ++ remote)
    Act.fail (.failure .notAuthorized)
  | .ok (some identity) => return identity

end Flow
end OnAir.Login
