import OnAir.Json.Writer

/-!
# Complaints about submitted values

A complaint says what is wrong with a value and where the value stands. Complaints have three
written forms: their kind, their wording, and the line that goes into an answer.
-/

namespace OnAir.Validation

inductive Problem
  | missing
  | notText
  | brokenText
  | tooShort (least : Nat)
  | tooLong (most : Nat)
  | noMatch (pattern : String)
  | notFlag
  | unreadableFlag
  | notBytes
  | notInteger
  | unreadableInteger
  | fraction
  | integerTooLarge
  | refused (reason : String)
  | notLiteral (expected : String)
  | notRecord (record : String)
  | notObject
  | notDocument (message : String)
  deriving DecidableEq, Repr

namespace Problem

def kind : Problem → String
  | .missing => "missing"
  | .notText => "string_type"
  | .brokenText => "string_unicode"
  | .tooShort _ => "string_too_short"
  | .tooLong _ => "string_too_long"
  | .noMatch _ => "string_pattern_mismatch"
  | .notFlag => "bool_type"
  | .unreadableFlag => "bool_parsing"
  | .notBytes => "bytes_type"
  | .notInteger => "int_type"
  | .unreadableInteger => "int_parsing"
  | .fraction => "int_from_float"
  | .integerTooLarge => "int_parsing_size"
  | .refused _ => "value_error"
  | .notLiteral _ => "literal_error"
  | .notRecord _ => "model_type"
  | .notObject => "model_attributes_type"
  | .notDocument _ => "json_invalid"

def characters (n : Nat) : String :=
  toString n ++ (if n = 1 then " character" else " characters")

def message : Problem → String
  | .missing => "Field required"
  | .notText => "Input should be a valid string"
  | .brokenText => "Input should be a valid string, unable to parse raw data as a unicode string"
  | .tooShort least => "String should have at least " ++ characters least
  | .tooLong most => "String should have at most " ++ characters most
  | .noMatch pattern => "String should match pattern '" ++ pattern ++ "'"
  | .notFlag => "Input should be a valid boolean"
  | .unreadableFlag => "Input should be a valid boolean, unable to interpret input"
  | .notBytes => "Input should be a valid bytes"
  | .notInteger => "Input should be a valid integer"
  | .unreadableInteger =>
    "Input should be a valid integer, unable to parse string as an integer"
  | .fraction => "Input should be a valid integer, got a number with a fractional part"
  | .integerTooLarge => "Unable to parse input string as an integer, exceeded maximum size"
  | .refused reason => "Value error, " ++ reason
  | .notLiteral expected => "Input should be " ++ expected
  | .notRecord record => "Input should be a valid dictionary or instance of " ++ record
  | .notObject => "Input should be a valid dictionary or object to extract fields from"
  | .notDocument _ => "JSON decode error"

def context : Problem → Option (String × String)
  | .tooShort least => some ("min_length", toString least)
  | .tooLong most => some ("max_length", toString most)
  | .noMatch pattern => some ("pattern", quoted pattern)
  | .refused reason => some ("error", "ValueError(" ++ quoted reason ++ ")")
  | .notLiteral expected => some ("expected", quoted expected)
  | .notRecord record => some ("class_name", quoted record)
  | .notDocument message => some ("error", quoted message)
  | _ => none

end Problem

inductive Step
  | field (name : String)
  | position (n : Nat)
  deriving DecidableEq, Repr

def Step.shown : Step → String
  | .field name => quoted name
  | .position n => toString n

structure Complaint where
  problem : Problem
  place : List Step
  deriving DecidableEq, Repr

namespace Complaint

def under (step : Step) (c : Complaint) : Complaint :=
  { c with place := step :: c.place }

def placeShown (place : List Step) : String :=
  match place with
  | [step] => "(" ++ step.shown ++ ",)"
  | steps => "(" ++ ", ".intercalate (steps.map Step.shown) ++ ")"

def shown (c : Complaint) : String :=
  let context := match c.problem.context with
    | some (name, value) => ", 'ctx': \x7b" ++ quoted name ++ ": " ++ value ++ "\x7d"
    | none => ""
  "\x7b'type': " ++ quoted c.problem.kind ++ ", 'loc': " ++ placeShown c.place
    ++ ", 'msg': " ++ quoted c.problem.message ++ context ++ "\x7d"

def listShown (complaints : List Complaint) : String :=
  "[" ++ ", ".intercalate (complaints.map shown) ++ "]"

end Complaint
end OnAir.Validation
