import OnAir.Failure
import OnAir.Log
import OnAir.Number.Double
import OnAir.Provider.Message
import OnAir.Store.Fault
import OnAir.Store.Tables

/-!
# The world around the application

Everything an operation can see or change: the tables, the clocks, the stream of random bytes, the
pools of connections, the identity provider, and the log. An operation is a function of the world
that ends in a result or an error; either way the world may have changed.

The process and the store run on two machines, each with a clock of its own.
-/

namespace OnAir

structure Connection where
  serial : Nat
  home : Nat
  deriving DecidableEq, Repr

/-- A pool: what it was made with, how often it was asked to close, and the connections handed back
to it. -/
structure Pool where
  dsn : String
  minSize : Int
  maxSize : Int
  commandTimeout : Double
  closeRequests : Nat
  handedBack : List Connection
  deriving DecidableEq, Repr

structure RandomSource where
  byteAt : Nat → UInt8
  drawn : Nat

/-- What the process runs on and never changes: the driver of the store, how long a statement of a
text takes, and the calls that lead to an error nobody foresaw. -/
structure Runtime where
  refusal : Store.Refusal
  elapsed : String → Double
  traceback : Unforeseen → String

/-- The state of the world. -/
structure World where
  tables : Store.Tables
  /-- The clock of the process. -/
  clock : Instant
  /-- The clock of the store. -/
  storeClock : Instant
  random : RandomSource
  faults : List Store.Fault
  /-- All pools ever created, by number. -/
  pools : List Pool
  /-- The number of the pool in use. -/
  current : Option Nat
  /-- The connections acquired and not released. -/
  out : List Connection
  /-- How many connections have been acquired. -/
  acquired : Nat
  /-- The tag the next change of data is answered with, in place of its own. -/
  nextTag : Option String
  provider : Provider.Script
  /-- The names that have a publisher, if anything reports them. -/
  live : Option (List String)
  log : List Log.Entry
  /-- The requests that reached the identity provider. -/
  sent : List Provider.Request
  runtime : Runtime

def World.noting (w : World) (lines : List Log.Entry) : World :=
  { w with log := w.log ++ lines }

section
variable (w : World) (lines : List Log.Entry)

@[simp] theorem World.noting_tables : (w.noting lines).tables = w.tables := rfl
@[simp] theorem World.noting_clock : (w.noting lines).clock = w.clock := rfl
@[simp] theorem World.noting_faults : (w.noting lines).faults = w.faults := rfl
@[simp] theorem World.noting_random : (w.noting lines).random = w.random := rfl
@[simp] theorem World.noting_runtime : (w.noting lines).runtime = w.runtime := rfl

theorem World.noting_noting (more : List Log.Entry) :
    (w.noting lines).noting more = w.noting (lines ++ more) := by
  simp [noting]

end

abbrev Act (ε α : Type) := ExceptT ε (StateM World) α

namespace Act

variable {ε ε' α : Type}

def of (f : World → Except ε α × World) : Act ε α :=
  f

def run (act : Act ε α) (w : World) : Except ε α × World :=
  act w

def look (f : World → α) : Act ε α :=
  of fun w => (.ok (f w), w)

def change (f : World → World) : Act ε Unit :=
  of fun w => (.ok (), f w)

def fail (e : ε) : Act ε α :=
  of fun w => (.error e, w)

def attempt (act : Act ε α) : Act ε' (Except ε α) :=
  of fun w => let (result, w) := run act w; (.ok result, w)

def ofExcept (result : Except ε α) : Act ε α :=
  of fun w => (result, w)

def handle (act : Act ε α) (onError : ε → Act ε' α) : Act ε' α :=
  of fun w => match run act w with
    | (.ok a, w) => (.ok a, w)
    | (.error e, w) => run (onError e) w

def mapError (f : ε → ε') (act : Act ε α) : Act ε' α :=
  of fun w => let (result, w) := run act w; (result.mapError f, w)

def enter (line : Log.Entry) : Act ε Unit :=
  change fun w => { w with log := w.log ++ [line] }

def note (level : Log.Level) (message : String) : Act ε Unit :=
  enter ⟨level, message⟩

def draw (count : Nat) : Act ε Bytes :=
  of fun w =>
    (.ok ((List.range count).map fun k => w.random.byteAt (w.random.drawn + k)),
      { w with random := { w.random with drawn := w.random.drawn + count } })

def now : Act ε Instant :=
  look (·.clock)

def storeNow : Act ε Instant :=
  look (·.storeClock)

-- -----------------------------------------------------------------------------
-- Running
-- -----------------------------------------------------------------------------

section Running

variable {β : Type}

@[simp] theorem run_pure (a : α) (w : World) : run (pure a : Act ε α) w = (.ok a, w) :=
  rfl

/-- What follows an operation runs in the world it leaves behind, unless it ends with an error. -/
theorem run_bind (act : Act ε α) (f : α → Act ε β) (w : World) :
    run (act >>= f) w = match run act w with
      | (.ok a, w) => run (f a) w
      | (.error e, w) => (.error e, w) := by
  change (ExceptT.bind act f : Act ε β) w = _
  simp only [ExceptT.bind, ExceptT.mk, ExceptT.bindCont, bind, StateT.bind, run]
  rcases act w with ⟨_ | _, _⟩ <;> rfl

@[simp] theorem run_of (f : World → Except ε α × World) (w : World) : run (of f) w = f w :=
  rfl

@[simp] theorem run_look (f : World → α) (w : World) : run (look f : Act ε α) w = (.ok (f w), w) :=
  rfl

@[simp] theorem run_change (f : World → World) (w : World) :
    run (change f : Act ε Unit) w = (.ok (), f w) :=
  rfl

@[simp] theorem run_fail (e : ε) (w : World) : run (fail e : Act ε α) w = (.error e, w) :=
  rfl

@[simp] theorem run_attempt (act : Act ε α) (w : World) :
    run (attempt act : Act ε' (Except ε α)) w = (.ok (run act w).1, (run act w).2) :=
  rfl

@[simp] theorem run_ofExcept (result : Except ε α) (w : World) :
    run (ofExcept result) w = (result, w) :=
  rfl

@[simp] theorem run_mapError (f : ε → ε') (act : Act ε α) (w : World) :
    run (mapError f act) w = ((run act w).1.mapError f, (run act w).2) :=
  rfl

theorem run_handle (act : Act ε α) (onError : ε → Act ε' α) (w : World) :
    run (handle act onError) w = match run act w with
      | (.ok a, w) => (.ok a, w)
      | (.error e, w) => run (onError e) w :=
  rfl

@[simp] theorem run_enter (line : Log.Entry) (w : World) :
    run (enter line : Act ε Unit) w = (.ok (), { w with log := w.log ++ [line] }) :=
  rfl

@[simp] theorem run_note (level : Log.Level) (message : String) (w : World) :
    run (note level message : Act ε Unit) w
      = (.ok (), { w with log := w.log ++ [⟨level, message⟩] }) :=
  rfl

@[simp] theorem run_now (w : World) : run (now : Act ε Instant) w = (.ok w.clock, w) :=
  rfl

@[simp] theorem run_storeNow (w : World) :
    run (storeNow : Act ε Instant) w = (.ok w.storeClock, w) :=
  rfl

end Running

end Act
end OnAir
