import OnAir.Json.Integer
import OnAir.Json.Writer
import OnAir.Log
import OnAir.Store.Fault

/-!
# The log of statements

Every statement leaves one line: its text, how long it took and what it raised, as far as known, and
who ran it. The arguments of a statement are never logged, for they hold secrets.
-/

namespace OnAir.Store

/-- A statement as it is sent: its text, its arguments, and who runs it, if that is known. -/
structure Query where
  text : String
  arguments : List Argument
  caller : Option String
  deriving DecidableEq, Repr

namespace Query

def texts (query : Query) : List RawText :=
  query.arguments.filterMap fun
    | .text t => some t
    | _ => none

def context (query : Query) : Json :=
  match query.caller with
  | some caller => .obj [("call_site", .str caller)]
  | none => .null

end Query

structure QueryRecord where
  query : Json
  arguments : List Argument
  elapsed : Json
  raised : Option StoreError
  deriving Repr

namespace QueryRecord

def elapsedPart (record : QueryRecord) : String :=
  match record.elapsed with
  | .null => ""
  | elapsed => " | elapsed=" ++ elapsed.display

def raisedPart (record : QueryRecord) : String :=
  match record.raised with
  | none => ""
  | some e => " | exception=" ++ e.name

def callerPart (caller : Json) : String :=
  if caller.isTruthy then " | caller=" ++ caller.display else ""

def text (record : QueryRecord) (caller : Json) : String :=
  "SQL: " ++ record.query.display ++ record.elapsedPart ++ record.raisedPart ++ callerPart caller

/-- The line for a statement run in a context, which names the caller if there is one. A context
that can name nobody leaves no line for the statement but one about itself. -/
def entry (record : QueryRecord) (context : Json) : Log.Entry :=
  match context with
  | .obj _ => ⟨.debug, record.text ((context.get? "call_site").getD .null)⟩
  | _ =>
    if context.isTruthy then
      ⟨.debug, "SQL: <unable to log query> (" ++ quoted context.kind
        ++ " object has no attribute 'get')"⟩
    else ⟨.debug, record.text .null⟩

end QueryRecord
end OnAir.Store
