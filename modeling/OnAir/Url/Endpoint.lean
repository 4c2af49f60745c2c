import OnAir.Number.Integer
import OnAir.Text.SmallLetters
import OnAir.Url.Address
import OnAir.Url.HostName
import OnAir.Url.Percent

/-!
# Endpoints of the identity provider

The addresses of the provider's endpoints come from the settings as free text. Before a request
goes out they are brought to one form: scheme and host in lower case, the scheme's own port left
out, dot segments resolved, and unsafe characters quoted while existing quotes stay. An address
without a scheme or host is taken as a path.
-/

namespace OnAir.Url

structure Endpoint where
  scheme : List Char
  userInfo : List Char
  host : List Char
  port : Option Int
  path : List Char
  query : Option (List Char)
  fragment : Option (List Char)
  deriving DecidableEq, Repr

inductive EndpointError
  | tooLong
  | notPrintable (c : Char) (position : Nat)
  | badDotted (host : String)
  | badColon (host : String)
  | badName (host : String)
  | badPort (port : String)
  | pathAfterHost
  | doubleSlash
  | leadingColon
  deriving DecidableEq, Repr

def EndpointError.message : EndpointError → String
  | .tooLong => "URL too long"
  | .notPrintable c position =>
    "Invalid non-printable ASCII character in URL, " ++ quoted (String.singleton c)
      ++ " at position " ++ toString position ++ "."
  | .badDotted host => "Invalid IPv4 address: " ++ quoted host
  | .badColon host => "Invalid IPv6 address: " ++ quoted host
  | .badName host => "Invalid IDNA hostname: " ++ quoted host
  | .badPort port => "Invalid port: " ++ quoted port
  | .pathAfterHost => "For absolute URLs, path must be empty or begin with '/'"
  | .doubleSlash => "Relative URLs cannot have a path starting with '//'"
  | .leadingColon => "Relative URLs cannot have a path starting with ':'"

def printableExcept (unsafeChars : List Char) (c : Char) : Bool :=
  ' ' ≤ c && c ≤ '~' && !unsafeChars.contains c

def fragmentSafe : Char → Bool := printableExcept [' ', '"', '<', '>', '\x60']

def querySafe : Char → Bool := printableExcept [' ', '"', '#', '<', '>']

def pathSafe : Char → Bool :=
  printableExcept [' ', '"', '#', '<', '>', '?', '\x60', '\x7b', '\x7d']

/-- What stays unquoted in a user name and its password; the colon between them does. -/
def userInfoSafe : Char → Bool :=
  printableExcept [' ', '"', '#', '<', '>', '?', '\x60', '\x7b', '\x7d', '/', ';', '=', '@', '[',
    '\\', ']', '^', '|']

def hostSafe (c : Char) : Bool :=
  isUnreserved c || ("!$&'()*+,;=\"\x60\x7b\x7d%|\\".toList).contains c

def requote (safe : Char → Bool) : List Char → List Char
  | '%' :: high :: low :: rest =>
    match byte? high low with
    | some _ => '%' :: high :: low :: requote safe rest
    | none =>
      quoteChar (fun c => isUnreserved c || safe c) '%' ++ requote safe (high :: low :: rest)
  | c :: rest => quoteChar (fun c => isUnreserved c || safe c) c ++ requote safe rest
  | [] => []

def resolveDots (path : List Char) : List Char :=
  let segments := Text.pieces '/' path
  if !segments.contains ['.'] && !segments.contains ['.', '.'] then path
  else
    let kept := segments.foldl
      (fun (out : List (List Char)) segment =>
        if segment = ['.'] then out
        else if segment = ['.', '.'] then (if out = [] ∨ out = [[]] then out else out.dropLast)
        else out ++ [segment])
      []
    ['/'].intercalate kept

def looksDotted (host : List Char) : Bool :=
  let runs := Text.pieces '.' host
  runs.length = 4 && runs.all fun run => run ≠ [] && run.all Char.isDigit

def encodeHost (host : List Char) : Except EndpointError (List Char) :=
  if host = [] then .ok []
  else if looksDotted host then
    if isDotted host then .ok host else .error (.badDotted (String.ofList host))
  else if host.head? = some '[' ∧ host.getLast? = some ']' then
    let inner := (host.drop 1).dropLast
    if isColon inner then .ok inner else .error (.badColon (String.ofList host))
  else if host.all (·.toNat < 128) then .ok (requote hostSafe (Text.lower host))
  else (HostName.encode (Text.smallLetters host)).mapError fun _ => .badName (String.ofList host)

def schemePort (scheme : List Char) : Option Int :=
  [("ftp", 21), ("http", 80), ("https", 443), ("ws", 80), ("wss", 443)].lookup
    (String.ofList scheme)

def encodePort (scheme port : List Char) : Except EndpointError (Option Int) :=
  if port = [] then .ok none
  else match Integer.read port with
    | .error _ => .error (.badPort (String.ofList port))
    | .ok n => .ok (if schemePort scheme = some n then none else some n)

def splitAuthority (authority : List Char) : List Char × List Char × List Char :=
  let (user, rest) := (Text.cutLast? '@' authority).getD ([], authority)
  let (host, rest) :=
    match rest, Text.cutLast? ']' rest with
    | '[' :: _, some (inner, rest) => (inner ++ [']'], rest)
    | _, _ => (rest.takeWhile (· ≠ ':'), rest.dropWhile (· ≠ ':'))
  (user, host, if rest.head? = some ':' then rest.drop 1 else rest)

def splitOff (sep : Char) (text : List Char) : List Char × Option (List Char) :=
  match Text.cutFirst? sep text with
  | some (before, after) => (before, some after)
  | none => (text, none)

def splitScheme (text : List Char) : List Char × List Char :=
  match Text.cutFirst? ':' text with
  | some (scheme, rest) =>
    let fits := scheme.head?.any Char.isAlpha
      && scheme.all fun c => c.isAlphanum || c == '+' || c == '.' || c == '-'
    if fits || scheme = [] then (scheme, rest) else ([], text)
  | none => ([], text)

def Endpoint.read (text : List Char) : Except EndpointError Endpoint := do
  if 65536 < text.length then throw .tooLong
  match text.findIdx? fun c => c < ' ' || c == '\x7f' with
  | some position => throw (.notPrintable (text.getD position ' ') position)
  | none => pure ()
  let (scheme, rest) := splitScheme text
  let (rest, fragment) := splitOff '#' rest
  let (rest, query) := splitOff '?' rest
  let (authority, path) := match rest with
    | '/' :: '/' :: rest => (rest.takeWhile (· ≠ '/'), rest.dropWhile (· ≠ '/'))
    | _ => ([], rest)
  let (user, host, port) := splitAuthority authority
  let scheme' := Text.lower scheme
  let userInfo := requote userInfoSafe user
  let host ← encodeHost host
  let port ← encodePort scheme port
  let hasAuthority := userInfo ≠ [] ∨ host ≠ [] ∨ port ≠ none
  if hasAuthority ∧ path ≠ [] ∧ path.head? ≠ some '/' then throw .pathAfterHost
  if scheme' = [] ∧ ¬hasAuthority then
    if ['/', '/'] <+: path then throw .doubleSlash
    if path.head? = some ':' then throw .leadingColon
  let path := if scheme' ≠ [] ∨ hasAuthority then resolveDots path else path
  return ⟨scheme', userInfo, host, port, requote pathSafe path, query.map (requote querySafe),
    fragment.map (requote fragmentSafe)⟩

def Endpoint.rooted (endpoint : Endpoint) : Endpoint :=
  if endpoint.scheme ≠ [] ∧ endpoint.host ≠ [] then endpoint
  else ⟨[], [], [], none, '/' :: endpoint.path.dropWhile (· = '/'), endpoint.query, none⟩

/-- Checks that the labels of the host can be read. Only a host that begins with a label in Punycode
is looked at. -/
def Endpoint.checkHost (endpoint : Endpoint) : Except HostName.Error Unit := do
  if (Text.after? Label.punycodeMark endpoint.host).isSome then
    let _ ← HostName.decode endpoint.host

def Endpoint.text (endpoint : Endpoint) : List Char :=
  let user := if endpoint.userInfo = [] then [] else endpoint.userInfo ++ ['@']
  let host := if endpoint.host.contains ':' then '[' :: endpoint.host ++ [']'] else endpoint.host
  let port := match endpoint.port with
    | some n => ':' :: Integer.text n
    | none => []
  let authority := user ++ host ++ port
  (if endpoint.scheme = [] then [] else endpoint.scheme ++ [':'])
    ++ (if authority = [] then [] else '/' :: '/' :: authority)
    ++ endpoint.path
    ++ (match endpoint.query with
      | some query => '?' :: query
      | none => [])
    ++ (match endpoint.fragment with
      | some fragment => '#' :: fragment
      | none => [])

def Endpoint.credentials? (endpoint : Endpoint) : Option (String × String) :=
  if endpoint.userInfo = [] then none
  else
    let (user, password) := (Text.cutFirst? ':' endpoint.userInfo).getD (endpoint.userInfo, [])
    if user = [] ∧ password = [] then none
    else some (String.ofList (unquote user), String.ofList (unquote password))

end OnAir.Url
