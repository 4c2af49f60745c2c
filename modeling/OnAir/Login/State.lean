import OnAir.Text.Quoted

/-!
# The states of a login

A browser's login moves between four states, each move in a request of its own. Only a browser
whose login is pending can become authenticated, so a callback out of the blue leads nowhere.
-/

namespace OnAir.Login

inductive State
  | unauthenticated
  | pending
  | authenticated
  | loggedOut
  deriving DecidableEq, Repr

namespace State

def all : List State := [authenticated, loggedOut, pending, unauthenticated]

def name : State → String
  | unauthenticated => "unauthenticated"
  | pending => "state_pending"
  | authenticated => "authenticated"
  | loggedOut => "logged_out"

def ofName? (s : String) : Option State :=
  all.find? (·.name = s)

def read (s : String) : Except String State :=
  match ofName? s with
  | some state => .ok state
  | none => .error (quoted s ++ " is not a valid LoginState")

def canMove : State → State → Bool
  | unauthenticated, pending | unauthenticated, loggedOut => true
  | pending, _ => true
  | authenticated, pending | authenticated, loggedOut => true
  | loggedOut, pending | loggedOut, loggedOut => true
  | _, _ => false

def targets (state : State) : List State :=
  all.filter (canMove state)

def sources (state : State) : List State :=
  all.filter (canMove · state)

/-- Whether a login can move between states given by name; what is no name is no state. -/
def canMoveNamed (current new : String) : Bool :=
  match ofName? current, ofName? new with
  | some current, some new => canMove current new
  | _, _ => false

end State
end OnAir.Login
