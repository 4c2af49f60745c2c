import OnAir.Bytes.Base64
import OnAir.Json.Reader
import OnAir.Json.Writer
import OnAir.Login.Identity
import OnAir.Provider.Content
import OnAir.Url.Endpoint
import OnAir.World

/-!
# The client of the identity provider

The client sends browsers to the provider, exchanges the code they come back with for a token, and
asks for the profile behind a token. It sends at most one request for each, and every answer that
is no token or no profile is refused with a reason for the log.
-/

namespace OnAir.Provider

open Login (Identity)

structure Client where
  clientId : String
  clientSecret : String
  authorizeUrl : String
  tokenUrl : String
  userUrl : String
  redirectUrl : String
  scopes : List String
  deriving DecidableEq, Repr

inductive Stage
  | token
  | user
  deriving DecidableEq, Repr

def Stage.word : Stage → String
  | .token => "token"
  | .user => "user"

inductive Refusal
  | transport (stage : Stage) (name text : String)
  | tokenStatus (status : Int) (text : String)
  | userStatus (status : Int)
  | notJson (stage : Stage)
  | noToken
  | noId
  | badFields (count : Nat)
  deriving DecidableEq, Repr

def Refusal.message : Refusal → String
  | .transport stage name text => stage.word ++ " request failed: " ++ name ++ ": " ++ text
  | .tokenStatus status text =>
    "token endpoint returned " ++ String.ofList (Integer.text status) ++ ": " ++ text
  | .userStatus status => "user endpoint returned " ++ String.ofList (Integer.text status)
  | .notJson stage => stage.word ++ " endpoint returned invalid JSON"
  | .noToken => "token response missing access_token"
  | .noId => "user response missing id"
  | .badFields count => "user response has invalid fields: " ++ toString count ++ " error(s)"

/-- How an exchange can end without a result. Only a refusal is foreseen. -/
inductive Error
  | refused (r : Refusal)
  | endpoint (e : Url.EndpointError)
  | header (e : HeaderError)
  | foreign (fault : TransportFault)
  | unknownScheme (url : String)
  | host (e : Url.HostName.Error)
  | charset (e : Charset.Error)
  | tooDeep (container : Json.Container)
  | surrogate (e : SurrogateError)
  deriving DecidableEq, Repr

def Error.message : Error → String
  | .refused r => r.message
  | .endpoint e => e.message
  | .header e => e.message
  | .foreign fault => fault.text
  | .unknownScheme url => "unknown url type: " ++ quoted url
  | .host e => e.message
  | .charset e => e.message
  | .tooDeep container =>
    "maximum recursion depth exceeded while decoding a JSON " ++ container.word
      ++ " from a unicode string"
  | .surrogate e => e.message

def Error.name : Error → String
  | .refused _ => "ProviderError"
  | .endpoint _ => "InvalidURL"
  | .header _ => "UnicodeEncodeError"
  | .foreign fault => fault.name
  | .unknownScheme _ => "ValueError"
  | .host e => e.name
  | .charset e => e.name
  | .tooDeep _ => "RecursionError"
  | .surrogate e => e.name

namespace Client

def configured (client : Client) : Bool :=
  client.clientId ≠ ""

def parameters (client : Client) (state : String) : List (String × String) :=
  [("response_type", "code"), ("client_id", client.clientId), ("redirect_uri", client.redirectUrl),
    ("scope", " ".intercalate client.scopes), ("state", state)]

def authorizationUrl (client : Client) (state : String) : String :=
  client.authorizeUrl ++ (if client.authorizeUrl.toList.contains '?' then "&" else "?")
    ++ String.ofList (Url.Form.encode (client.parameters state))

def tokenForm (client : Client) (code : String) : List (String × String) :=
  [("grant_type", "authorization_code"), ("code", code), ("redirect_uri", client.redirectUrl)]

end Client

def basicAuthorization (user password : String) : String :=
  "Basic " ++ String.ofList (Base64.encodePadded Base64.standard
    (Utf8.ofString (user ++ ":" ++ password)))

def bearerAuthorization (token : Json) : Except HeaderError String :=
  headerText (RawText.text "Bearer " ++ token.displayed).codes

def Response.location? (r : Response) : Option String :=
  if [301, 302, 303, 307, 308].contains r.status then r.header? "location" else none

/-- Looks where a redirect leads to, without going there. An address without a host is meant to be
on the same host, so it must be a path from the root there. -/
def checkLocation (stage : Stage) (location : String) : Except Error Unit := do
  match Url.Endpoint.read location.toList with
  | .error e => throw (.refused (.transport stage "RemoteProtocolError"
      ("Invalid URL in location header: " ++ e.message ++ ".")))
  | .ok target =>
    if target.scheme ≠ [] ∧ target.host = [] then
      if target.path ≠ [] ∧ target.path.head? ≠ some '/' then throw (.endpoint .pathAfterHost)
    else target.checkHost.mapError .host

/-- Takes a response to a request as far as its text: headers, coding and redirects must be in
order. -/
def receive (stage : Stage) (endpoint : Url.Endpoint) (r : Response) : Except Error Response := do
  r.checkHeaders.mapError .header
  let r ← r.decoded.mapError fun f =>
    .refused (.transport stage "DecodingError" f.message)
  if endpoint.scheme = [] then throw (.unknownScheme (String.ofList endpoint.text))
  if let some location := r.location? then checkLocation stage location
  return r

def transmit (stage : Stage) (endpoint : Url.Endpoint) (request : Request) :
    Act Error Response := do
  Act.ofExcept (endpoint.checkHost.mapError .host)
  Act.change fun w => { w with sent := w.sent ++ [request] }
  let reply ← Act.look fun w => match stage with
    | .token => w.provider.token
    | .user => w.provider.user
  match reply with
  | .fault f =>
    Act.fail (if f.foreign then .foreign f else .refused (.transport stage f.name f.text))
  | .response r => Act.ofExcept (receive stage endpoint r)

def readBody (stage : Stage) (r : Response) : Except Error Json :=
  match Json.readBytes r.body with
  | .ok value => .ok value
  | .error (.tooDeep container) => .error (.tooDeep container)
  | .error _ => .error (.refused (.notJson stage))

def readToken (r : Response) : Except Error Json := do
  if r.status ≠ 200 then
    let text ← r.text.mapError .charset
    throw (.refused (.tokenStatus r.status (String.ofList (text.take 200))))
  match (← readBody .token r).get? "access_token" with
  | some token => if token.isTruthy then return token else throw (.refused .noToken)
  | none => throw (.refused .noToken)

def profileField (profile : Json) (name : String) : Json :=
  match profile.get? name with
  | some value => if value.isTruthy then value else .str ""
  | none => .str ""

def readProfile (r : Response) : Except Error Identity := do
  if r.status ≠ 200 then throw (.refused (.userStatus r.status))
  let profile ← readBody .user r
  match profile.get? "id" with
  | none => throw (.refused .noId)
  | some id =>
    if !id.isTruthy then throw (.refused .noId)
    let fields := (.text "id", .str id.displayed) ::
      ["username", "discriminator", "avatar"].map fun name =>
        (.text name, profileField profile name)
    (Identity.read fields).mapError fun complaints => .refused (.badFields complaints.length)

def Client.exchange (client : Client) (code : RawText) : Act Error Json := do
  let endpoint ← Act.ofExcept ((Url.Endpoint.read client.tokenUrl.toList).mapError .endpoint)
  let code ← Act.ofExcept (code.proper.mapError .surrogate)
  let endpoint := endpoint.rooted
  let response ← transmit .token endpoint {
    method := "POST"
    url := String.ofList endpoint.text
    authorization := basicAuthorization client.clientId client.clientSecret
    accept := some "application/json"
    contentType := some "application/x-www-form-urlencoded"
    body := some (String.ofList (Url.Form.encode (client.tokenForm code))) }
  let token ← Act.ofExcept (readToken response)
  let kind := match readBody .token response with
    | .ok body => (body.get? "token_type").getD .null
    | .error _ => .null
  Act.note .debug ("token exchange ok, token_type=" ++ kind.display)
  return token

/-- Asks for the profile behind a token. Credentials in the address take the place of the token. -/
def Client.profile (client : Client) (token : Json) : Act Error Identity := do
  let endpoint ← Act.ofExcept ((Url.Endpoint.read client.userUrl.toList).mapError .endpoint)
  let bearer ← Act.ofExcept ((bearerAuthorization token).mapError .header)
  let endpoint := endpoint.rooted
  let response ← transmit .user endpoint {
    method := "GET"
    url := String.ofList endpoint.text
    authorization := match endpoint.credentials? with
      | some (user, password) => basicAuthorization user password
      | none => bearer
    accept := none
    contentType := none
    body := none }
  Act.ofExcept (readProfile response)

end OnAir.Provider
