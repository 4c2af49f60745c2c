import OnAir.Text.Cut

/-!
# Log

What the application reports about its work: a level and a message, and the worker that reports.
-/

namespace OnAir.Log

inductive Level
  | trace
  | debug
  | info
  | success
  | warning
  | error
  | critical
  deriving DecidableEq, Repr

def Level.name : Level → String
  | .trace => "TRACE"
  | .debug => "DEBUG"
  | .info => "INFO"
  | .success => "SUCCESS"
  | .warning => "WARNING"
  | .error => "ERROR"
  | .critical => "CRITICAL"

def Level.weight : Level → Nat
  | .trace => 5
  | .debug => 10
  | .info => 20
  | .success => 25
  | .warning => 30
  | .error => 40
  | .critical => 50

def Level.icon : Level → String
  | .trace => "✏️"
  | .debug => "🐞"
  | .info => "ℹ️"
  | .success => "✅"
  | .warning => "⚠️"
  | .error => "❌"
  | .critical => "☠️"

def Level.all : List Level :=
  [.trace, .debug, .info, .success, .warning, .error, .critical]

structure Entry where
  level : Level
  message : String
  deriving DecidableEq, Repr

structure Worker where
  name : String
  build : String
  deriving DecidableEq, Repr

/-- The worker of a process environment. The build is the second part of the commit's name. -/
def Worker.ofEnviron (environ : List (String × String)) (default : String) : Worker :=
  let commit := (environ.lookup "BUILD_COMMIT").getD ""
  { name := (environ.lookup "WORKER_NAME").getD default
    build := match Text.pieces '-' commit.toList with
      | _ :: second :: _ => String.ofList second
      | _ => "dev" }

end OnAir.Log
