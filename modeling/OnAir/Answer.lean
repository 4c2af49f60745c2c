import OnAir.Json.Check
import OnAir.Json.Integer
import OnAir.Json.Writer
import OnAir.Validation.Field

/-!
# Answers

The envelope around every result and every failure: the version of the application, whether it
went well, and the result or the code, reference and wording of the failure.
-/

namespace OnAir.Answer

open Validation (Checked Fields)

def internalCode : String := "E_INTERNAL_ERROR"

def apology : String := "We are sorry, an error occurred."

def version (environ : List (String × String)) : String :=
  (environ.lookup "BUILD_COMMIT").getD "dev"

inductive Envelope
  | success (version : Option RawText) (results : Json)
  | failure (version : Option RawText) (code reference message : RawText)
  deriving Repr

def textOrNull : Option RawText → Json
  | some s => .str s
  | none => .null

def Envelope.toJson : Envelope → Json
  | .success version results =>
    .obj [("version", textOrNull version), ("success", .bool true), ("results", results)]
  | .failure version code reference message =>
    .obj [("version", textOrNull version), ("success", .bool false), ("errcode", .str code),
      ("erresid", .str reference), ("errmesg", .str message)]

def Envelope.status : Envelope → Int
  | .success .. => 200
  | .failure _ code _ _ => if code = .text internalCode then 500 else 400

def readSuccess (version : String) (fields : Fields) : Checked Envelope := do
  let given := Validation.optional fields "version" (Validation.nullable Validation.rawText)
    (some (.text version))
  let (v, _) ← given.both (Validation.optional fields "success" (Validation.literalFlag true) true)
  return .success v ((fields.lookup (.text "results")).getD (.str "OK"))

/-- Reads a failure from its fields. The reference, which ties it to the log, is new unless it is
given. -/
def readFailure (version reference : String) (fields : Fields) : Checked Envelope := do
  let ((v, _), code, ref, message) ←
    ((Validation.optional fields "version" (Validation.nullable Validation.rawText)
        (some (.text version))).both
      (Validation.optional fields "success" (Validation.literalFlag false) false)).both
    ((Validation.optional fields "errcode" Validation.rawText internalCode).both
      ((Validation.optional fields "erresid" Validation.rawText reference).both
        (Validation.optional fields "errmesg" Validation.rawText apology)))
  return .failure v code ref message

/-- Reads a failure from a code and a wording; what is empty gives way to the general ones. -/
def readBrief (version reference : String) (code message : Json) : Checked Envelope :=
  readFailure version reference ([(.text "errcode", code), (.text "errmesg", message)].filter fun field =>
    field.2.isTruthy)

-- -----------------------------------------------------------------------------
-- Writing
-- -----------------------------------------------------------------------------

inductive WriteError
  | integerRange
  | brokenText
  | tooDeep
  deriving DecidableEq, Repr

def WriteError.message : WriteError → String
  | .integerRange => "Integer exceeds 64-bit range"
  | .brokenText => "str is not valid UTF-8: surrogates not allowed"
  | .tooDeep => "Recursion limit reached"

def WriteError.name (_ : WriteError) : String :=
  "TypeError"

def depthLimit : Nat := 254

def checkText : RawText → Except WriteError Unit
  | .text _ => .ok ()
  | .broken _ => .error .brokenText

/-- Answers hold integers that fit into 64 bits, with or without a sign, and strings that are
text. -/
def limits : Json.Limits WriteError where
  integer n := if -Nat.pow 2 63 ≤ n ∧ n < Nat.pow 2 64 then .ok () else .error .integerRange
  string := checkText
  tooDeep := .tooDeep

def write (value : Json) : Except WriteError String := do
  Json.check limits depthLimit value
  return String.ofList (Json.text Json.answerLayout value)

-- -----------------------------------------------------------------------------
-- Reports
-- -----------------------------------------------------------------------------

/-- A failure report made from loose values: the code becomes text, the message stays as it is. -/
structure Report where
  code : RawText
  message : Json
  status : Int
  deriving Repr

def Report.make (code message status : Option Json) : Except Json.IntegerError Report := do
  let status ← (status.getD (.int 500)).toInteger
  return ⟨(code.getD (.str internalCode)).displayed, message.getD (.str apology), status⟩

def Report.shown (r : Report) : String :=
  "AppError(" ++ String.ofList r.code.quoted ++ ", " ++ String.ofList r.message.shown ++ ", "
    ++ String.ofList (Integer.text r.status) ++ ")"

end OnAir.Answer
