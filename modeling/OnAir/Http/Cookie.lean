import OnAir.Http.Request
import OnAir.Number.Integer
import OnAir.Seal.Sealer
import OnAir.Time.HttpDate

/-!
# Cookies

Reading the cookies of a request, and writing changes of cookies into a response. Every cookie of
the application belongs to the whole site, stays out of reach of scripts and does not travel with
requests from elsewhere.
-/

namespace OnAir.Http

open Seal (CookieChange)

namespace Cookie

-- -----------------------------------------------------------------------------
-- Reading
-- -----------------------------------------------------------------------------

def isOctal (c : Char) : Bool :=
  '0' ≤ c && c ≤ '7'

def octal? : List Char → Option Char
  | [a, b, c] =>
    if isOctal a && a ≤ '3' && isOctal b && isOctal c then
      some (Char.ofNat (((a.toNat - 48) * 8 + (b.toNat - 48)) * 8 + (c.toNat - 48)))
    else none
  | _ => none

/-- Resolves the escapes in a quoted value: three octal digits, or any one character but a line
feed. -/
def unescape : List Char → List Char
  | [] => []
  | '\\' :: a :: b :: c :: rest =>
    match octal? [a, b, c] with
    | some x => x :: unescape rest
    | none => if a = '\n' then '\\' :: unescape (a :: b :: c :: rest)
      else a :: unescape (b :: c :: rest)
  | '\\' :: a :: rest => if a = '\n' then '\\' :: unescape (a :: rest) else a :: unescape rest
  | c :: rest => c :: unescape rest

def unquoted (value : List Char) : List Char :=
  match value with
  | '"' :: rest@(_ :: _) => if rest.getLast? = some '"' then unescape rest.dropLast else value
  | _ => value

/-- Reads one piece of a cookie header. A piece without an equals sign is a value without a name. -/
def readPiece? (piece : List Char) : Option (String × String) :=
  let (name, value) := (Text.cutFirst? '=' piece).getD ([], piece)
  let name := Text.trim name
  let value := Text.trim value
  if name = [] ∧ value = [] then none
  else some (String.ofList name, String.ofList (unquoted value))

def read (header : String) : List (String × String) :=
  (Text.pieces ';' header.toList).filterMap readPiece?

-- -----------------------------------------------------------------------------
-- Writing
-- -----------------------------------------------------------------------------

def attributes : List String :=
  ["expires", "path", "comment", "domain", "max-age", "secure", "httponly", "version", "samesite"]

def isNameChar (c : Char) : Bool :=
  c.isAlphanum || "!#$%&'*+-.^_\x60|~:".toList.contains c

def isName (s : String) : Bool :=
  s ≠ "" && s.toList.all isNameChar && !attributes.contains (String.ofList (Text.lower s.toList))

end Cookie

def Request.cookie? (r : Request) (name : String) : Option String :=
  ((r.headers.filter (·.1 = "cookie")).flatMap fun h => Cookie.read h.2).reverse.lookup name

/-- A change of a cookie as a response carries it. A change that removes its cookie has a date from
which on the cookie counts as expired. -/
structure SetCookie where
  name : String
  value : String
  maxAge : Int
  expires : Option Calendar.Date
  secure : Bool
  deriving DecidableEq, Repr

/-- Why a change of a cookie cannot be written: it has no proper name, or the present has no date. -/
inductive CookieError
  | badName (name : String)
  | date (e : Calendar.RangeError)
  deriving DecidableEq, Repr

def CookieError.name : CookieError → String
  | .badName _ => "CookieError"
  | .date e => e.name

def CookieError.message : CookieError → String
  | .badName name =>
    let reserved := Cookie.attributes.contains (String.ofList (Text.lower name.toList))
    (if reserved then "Attempt to set a reserved key " else "Illegal key ") ++ quoted name
  | .date e => e.message

namespace SetCookie

def ofChange (change : CookieChange) (secure : Bool) (now : Instant) :
    Except CookieError SetCookie :=
  if !Cookie.isName change.name then .error (.badName change.name)
  else if change.clears then
    (now.date.mapError .date).map fun date => ⟨change.name, "", 0, some date, secure⟩
  else .ok ⟨change.name, change.value, change.maxAge, none, secure⟩

/-- The header text. An empty value is written as two quotes; a sealed one needs none. -/
def text (c : SetCookie) : String :=
  let value := if c.value = "" then "\"\"" else c.value
  "; ".intercalate ([c.name ++ "=" ++ value]
    ++ c.expires.toList.map (fun date => "expires=" ++ date.httpText)
    ++ ["HttpOnly", "Max-Age=" ++ String.ofList (Integer.text c.maxAge), "Path=/", "SameSite=lax"]
    ++ if c.secure then ["Secure"] else [])

end SetCookie
end OnAir.Http
