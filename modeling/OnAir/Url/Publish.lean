import OnAir.Text.Quoted
import OnAir.Url.Address

/-!
# Splitting publish URLs

A publisher sends a URL of any shape. Splitting finds the scheme, authority, path, query and
fragment, and refuses only an authority that no host could have: brackets that do not match or hold
no address, and characters that turn into delimiters when a host name is normalised.
-/

namespace OnAir.Url

/-- The parts of a URL, delimiters taken off. The fragment is not kept. -/
structure Parts where
  authority : List Char
  path : List Char
  query : List Char
  deriving DecidableEq, Repr

inductive SplitError
  | unmatchedBracket
  | badFutureAddress
  | dottedInBrackets
  | notAddress (host : String)
  | foldsToDelimiter (authority : String)
  deriving DecidableEq, Repr

def SplitError.message : SplitError → String
  | .unmatchedBracket => "Invalid IPv6 URL"
  | .badFutureAddress => "IPvFuture address is invalid"
  | .dottedInBrackets => "An IPv4 address cannot be in brackets"
  | .notAddress host => quoted host ++ " does not appear to be an IPv4 or IPv6 address"
  | .foldsToDelimiter authority =>
    "netloc '" ++ authority ++ "' contains invalid characters under NFKC normalization"

/-- The characters beyond ASCII whose compatibility form holds one of the delimiters of a URL. -/
def foldingToDelimiters : List Nat := [
  0x2047, 0x2048, 0x2049, 0x2100, 0x2101, 0x2105, 0x2106, 0x2a74, 0xfe13, 0xfe16, 0xfe55, 0xfe56,
  0xfe5f, 0xfe6b, 0xff03, 0xff0f, 0xff1a, 0xff1f, 0xff20]

def cleaned (text : List Char) : List Char :=
  (text.dropWhile (· ≤ ' ')).filter fun c => c ≠ '\t' ∧ c ≠ '\r' ∧ c ≠ '\n'

def isSchemeChar (c : Char) : Bool :=
  c.isAlphanum || c == '+' || c == '-' || c == '.'

def afterScheme (text : List Char) : List Char :=
  match Text.cutFirst? ':' text with
  | some (scheme, rest) =>
    if (scheme.head?.any Char.isAlpha) ∧ scheme.all isSchemeChar then rest else text
  | none => text

/-- The texts before and after the first `sep`; without one, all of the text comes before. -/
def upTo (sep : Char) (text : List Char) : List Char × List Char :=
  (Text.cutFirst? sep text).getD (text, [])

/-- The address of a future version: a hexadecimal version between `v` and a point, and something
after the point other than line ends. -/
def isFutureAddress (host : List Char) : Bool :=
  match host with
  | 'v' :: rest =>
    let version := rest.takeWhile fun c => (Hex.digit? c).isSome
    version ≠ [] && match rest.drop version.length with
      | '.' :: (c :: more) => (c :: more).all (· ≠ '\n')
      | _ => false
  | _ => false

def checkBrackets (host : List Char) : Except SplitError Unit :=
  if host.head? = some 'v' then
    if isFutureAddress host then .ok () else .error .badFutureAddress
  else if isDotted host then .error .dottedInBrackets
  else if isColon host then .ok ()
  else .error (.notAddress (String.ofList host))

/-- The host that an authority with brackets names: what stands between the brackets behind the
user, where nothing may precede them and only a port may follow them; without brackets there, the
text before the port. -/
def bracketedHost (authority : List Char) : Except SplitError (List Char) :=
  let place := ((Text.cutLast? '@' authority).map (·.2)).getD authority
  match Text.cutFirst? '[' place with
  | none => .ok (upTo ':' place).1
  | some (before, rest) =>
    let (host, port) := upTo ']' rest
    if before ≠ [] ∨ port.head?.any (· ≠ ':') then .error .unmatchedBracket else .ok host

def checkAuthority (authority : List Char) : Except SplitError Unit :=
  if authority.contains '[' ≠ authority.contains ']' then .error .unmatchedBracket
  else if authority.contains '[' then do checkBrackets (← bracketedHost authority)
  else .ok ()

def checkFolding (authority : List Char) : Except SplitError Unit :=
  if authority.any fun c => foldingToDelimiters.contains c.toNat then
    .error (.foldsToDelimiter (String.ofList authority))
  else .ok ()

def split (text : List Char) : Except SplitError Parts := do
  let rest := afterScheme (cleaned text)
  let (authority, rest) := match rest with
    | '/' :: '/' :: rest =>
      (rest.takeWhile fun c => c ≠ '/' ∧ c ≠ '?' ∧ c ≠ '#',
        rest.dropWhile fun c => c ≠ '/' ∧ c ≠ '?' ∧ c ≠ '#')
    | _ => ([], rest)
  checkAuthority authority
  let (body, _) := upTo '#' rest
  let (path, query) := upTo '?' body
  checkFolding authority
  return ⟨authority, path, query⟩

def lastSegment (path : List Char) : List Char :=
  (Text.pieces '/' (Text.dropTail (· == '/') path)).getLastD []

end OnAir.Url
