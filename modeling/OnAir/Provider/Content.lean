import OnAir.Provider.Message
import OnAir.Text.Blank
import OnAir.Text.Quoted
import OnAir.Deflate.Frame
import OnAir.Http.ContentType

/-!
# Headers and content

Headers are ASCII, in both directions; a text beyond it is refused before the message counts.
Case does not matter in names, and headers of one name are one header.

The body of a response may be coded, and its text may be in any character set. The headers tell
which; codings and sets that are not known here are passed over.
-/

namespace OnAir.Provider

-- -----------------------------------------------------------------------------
-- Headers
-- -----------------------------------------------------------------------------

/-- A text that cannot stand in a header: where it leaves ASCII, for how long, and with which
character. -/
structure HeaderError where
  start : Nat
  length : Nat
  code : Nat
  deriving DecidableEq, Repr

def HeaderError.message (e : HeaderError) : String :=
  let place :=
    if e.length = 1 then
      "character '" ++ String.ofList (Text.codeEscape e.code) ++ "' in position "
        ++ toString e.start
    else
      "characters in position " ++ toString e.start ++ "-" ++ toString (e.start + e.length - 1)
  "'ascii' codec can't encode " ++ place ++ ": ordinal not in range(128)"

def headerText (codes : List Nat) : Except HeaderError String :=
  let start := (codes.takeWhile (· < 128)).length
  match codes.drop start with
  | [] => .ok (String.ofList (codes.map Char.ofNat))
  | code :: rest => .error ⟨start, ((code :: rest).takeWhile (128 ≤ ·)).length, code⟩

def Response.checkHeaders (r : Response) : Except HeaderError Unit :=
  r.headers.forM fun (name, value) => do
    let _ ← headerText (name.toList.map Char.toNat)
    let _ ← headerText (value.toList.map Char.toNat)

def Response.header? (r : Response) (name : String) : Option String :=
  match r.headers.filter fun (n, _) => Text.lower n.toList = name.toList with
  | [] => none
  | found => some (", ".intercalate (found.map (·.2)))

-- -----------------------------------------------------------------------------
-- Content
-- -----------------------------------------------------------------------------

inductive Coding
  | gzip
  | deflate
  deriving DecidableEq, Repr

def Coding.ofName? (name : List Char) : Option Coding :=
  [("gzip", gzip), ("deflate", deflate)].lookup (String.ofList name)

/-- Undoes a coding, as far as there are bytes. What should be in the plain frame may also be
bare. -/
def Coding.undo (coding : Coding) (bytes : Bytes) : Except Deflate.Fault Bytes :=
  let settle (outcome : Deflate.Outcome) : Except Deflate.Fault Bytes :=
    match outcome.halt with
    | some (.fault f) => .error f
    | _ => .ok outcome.output
  match coding with
  | .gzip => settle (Deflate.filed bytes)
  | .deflate => match settle (Deflate.framed bytes) with
    | .ok output => .ok output
    | .error _ => settle (Deflate.bare bytes)

def Response.codings (r : Response) : List Coding :=
  (Text.pieces ',' ((r.header? "content-encoding").getD "").toList).filterMap fun name =>
    Coding.ofName? (Text.lower (Text.trim name))

def Response.decoded (r : Response) : Except Deflate.Fault Response := do
  return { r with body := ← r.codings.reverse.foldlM (fun body coding => coding.undo body) r.body }

def Response.charset (r : Response) : Except Charset.Error Charset :=
  match (r.header? "content-type").bind fun text => Http.ContentType.charset? text.toList with
  | none => .ok (.utf8 false)
  | some name =>
    if name.contains '\x00' then .error .brokenName
    else .ok ((Charset.ofName? name).getD (.utf8 false))

/-- The text of a response. Where there are no bytes there is no need to read them. -/
def Response.text (r : Response) : Except Charset.Error (List Char) := do
  if r.body = [] then return []
  (← r.charset).decode r.body

end OnAir.Provider
