import OnAir.Http.Request
import OnAir.Json.Reader
import OnAir.Validation.Field

/-!
# Bodies

A body is a document only if the request says so; anything else is no object. Reading a body comes
before every other check, reading its fields after them.
-/

namespace OnAir.Http

open Validation (Checked Complaint Fields)

inductive Body
  | missing
  | other
  | document (value : Json)
  deriving Repr

inductive BodyError
  | malformed (complaint : Complaint)
  | unreadable
  deriving DecidableEq, Repr

def isDocumentType (contentType : String) : Bool :=
  let kind := ((Text.cutFirst? ';' contentType.toList).map (·.1)).getD contentType.toList
  match Text.pieces '/' (Text.lower (Text.trim kind)) with
  | [main, sub] =>
    main = "application".toList &&
      (sub = "json".toList || (Text.before? "+json".toList sub).isSome)
  | _ => false

namespace Body

def place : Validation.Step := .field "body"

/-- Reads the body of a request. An empty body is none, whatever its type. -/
def ofRequest (r : Request) : Except BodyError Body :=
  if r.body.isEmpty then .ok .missing
  else if !isDocumentType ((r.header? "content-type").getD "") then .ok .other
  else match Json.readBytes r.body with
    | .ok value => .ok (.document value)
    | .error (.malformed problem position) =>
      .error (.malformed ⟨.notDocument problem.message, [place, .position position]⟩)
    | .error _ => .error .unreadable

def fields : Body → Checked Fields
  | .missing => .error [⟨.missing, []⟩]
  | .other => .error [⟨.notObject, []⟩]
  | .document value => Validation.objectOr .notObject value

def read {α : Type} (reader : Fields → Checked α) (body : Body) : Checked α :=
  (body.fields >>= reader).mapError fun complaints => complaints.map (Complaint.under place)

end Body
end OnAir.Http
