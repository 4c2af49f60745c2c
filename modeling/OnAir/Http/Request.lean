import OnAir.Log
import OnAir.Url.Address
import OnAir.Url.Percent

/-!
# Requests and their hosts

A request as the server hands it on: the target is split at its first question mark, the path is
unquoted, and header names are in lower case. Header texts have one character for each byte, and so
has a target. The query must be UTF-8, although its parameters are read byte by byte.

A request names the host it is meant for: a name or a bracketed address, and possibly a port. What a
client sends there may be anything, so a host is used only where its text is one.

Every request leaves its traces in the log, under a name made up for it.
-/

namespace OnAir.Http

-- -----------------------------------------------------------------------------
-- Hosts
-- -----------------------------------------------------------------------------

/-- Whether a text is a name of a host: unreserved characters, delimiters that mean nothing here,
and quoted bytes. -/
def isHostName : List Char → Bool
  | [] => true
  | '%' :: high :: low :: rest => (Url.byte? high low).isSome && isHostName rest
  | c :: rest => (Url.isUnreserved c || "!$&'()*+,;=".toList.contains c) && isHostName rest

def isPort : List Char → Bool
  | [] => true
  | ':' :: digits =>
    digits.all (fun c => '0' ≤ c && c ≤ '9')
      && digits.foldl (fun n c => n * 10 + (c.toNat - 48)) 0 ≤ 65535
  | _ => false

def isHost (text : List Char) : Bool :=
  match text with
  | '[' :: rest => match Text.cutFirst? ']' rest with
    | some (address, port) => !address.contains '%' && Url.isColon address && isPort port
    | none => false
  | _ =>
    let name := text.takeWhile (· ≠ ':')
    name ≠ [] && isHostName name && isPort (text.drop name.length)

-- -----------------------------------------------------------------------------
-- Requests
-- -----------------------------------------------------------------------------

structure Request where
  /-- The name under which the server was reached. -/
  server : String
  method : String
  path : String
  query : Bytes
  headers : List (String × String)
  body : Bytes
  /-- The address of the other side, if there is one. -/
  client : Option String
  /-- The name of the request in the log. -/
  id : String
  /-- The reference under which its failure, if it fails, is found in the log. -/
  reference : String
  /-- How many milliseconds the answer takes. -/
  duration : String
  deriving DecidableEq, Repr

namespace Request

def bytesOf (text : List Char) : Bytes :=
  text.flatMap fun c => if c.toNat < 256 then [UInt8.ofNat c.toNat] else Utf8.encode [c]

def ofTarget (server method target : String) (headers : List (String × String)) (body : Bytes)
    (client : Option String) (id reference duration : String) : Except Utf8.Fault Request :=
  let (path, query) := (Text.cutFirst? '?' target.toList).getD (target.toList, [])
  match Utf8.fault? (bytesOf query) with
  | some fault => .error fault
  | none => .ok {
      server, method, body, client, id, reference, duration
      path := String.ofList (Url.unquote path)
      query := bytesOf query
      headers :=
        headers.map fun (name, value) => (String.ofList (Text.lower name.toList), value) }

def header? (r : Request) (name : String) : Option String :=
  r.headers.lookup name

def parameter? (r : Request) (name : String) : Option String :=
  (Url.Form.decode true (r.query.map fun b => Char.ofNat b.toNat)).reverse.lookup name

/-- Where a request comes from: the first address it was forwarded for, else the other side. -/
def remote (r : Request) : String :=
  let forwarded := (r.header? "x-forwarded-for").getD ""
  if forwarded = "" then r.client.getD "unknown"
  else
    let first := ((Text.cutFirst? ',' forwarded.toList).map (·.1)).getD forwarded.toList
    String.ofList (Text.trim first)

-- -----------------------------------------------------------------------------
-- The log
-- -----------------------------------------------------------------------------

/-- The path as the log shows it. What would end a path is quoted, and tabs and line ends are
left out. -/
def shownPath (r : Request) : String :=
  let quoted := Url.quote (fun c => c ≠ '?' ∧ c ≠ '#') r.path.toList
  String.ofList ((quoted.filter fun c => c ≠ '\t' ∧ c ≠ '\r' ∧ c ≠ '\n').dropWhile (· ≠ '/'))

def purpose (r : Request) : String :=
  r.method ++ " " ++ r.shownPath

def arrival (r : Request) : Log.Entry :=
  ⟨.info, "[" ++ r.id ++ "] " ++ r.purpose⟩

def departure (r : Request) (status : Nat) : Log.Entry :=
  ⟨.info, "[" ++ r.id ++ "] " ++ r.purpose ++ " - Status: " ++ toString status ++ " - Duration: "
    ++ r.duration ++ "ms"⟩

end Request
end OnAir.Http
