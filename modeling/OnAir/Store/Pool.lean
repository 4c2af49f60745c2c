import OnAir.Config.StoreUrl
import OnAir.World

/-!
# The owner of the pool

One owner opens a pool of connections, hands them out and closes it again. Opening an open pool and
closing a closed one change nothing. Faults in closing and in releasing are logged and go no
further; every other one ends the operation.
-/

namespace OnAir.Store

structure PoolOwner where
  dsn : String
  maxSize : Int
  commandTimeout : Double
  deriving DecidableEq, Repr

def PoolOwner.make (dsn : String) (maxSize : Int) (commandTimeout : Double) : PoolOwner :=
  ⟨dsn, if maxSize < 1 then 1 else maxSize, commandTimeout⟩

def PoolOwner.safeDsn (owner : PoolOwner) : String :=
  StoreUrl.safe owner.dsn

def pass (event : Event) : Act StoreError Unit :=
  .of fun w =>
    let (struck, faults) := nextFault event w.faults
    let w := { w with faults }
    match struck with
    | some e => (.error e, w)
    | none => (.ok (), w)

def requirePool : Act StoreError Nat := do
  match ← Act.look (·.current) with
  | some number => return number
  | none => Act.fail .poolNotOpen

def changePool (number : Nat) (f : Pool → Pool) (w : World) : World :=
  { w with pools := w.pools.modify number f }

def PoolOwner.openPool (owner : PoolOwner) : Act StoreError Unit := do
  if (← Act.look (·.current)).isNone then
    Act.note .info ("Open Postgres pool " ++ owner.safeDsn ++ " max_size="
      ++ String.ofList (Integer.text owner.maxSize))
    pass .createPool
    Act.change fun w =>
      { w with
        pools := w.pools ++ [⟨owner.dsn, 1, owner.maxSize, owner.commandTimeout, 0, []⟩]
        current := some w.pools.length }

/-- Closes the pool, unless it is closed. The pool is no longer in use even if closing fails. -/
def PoolOwner.closePool {ε : Type} (owner : PoolOwner) : Act ε Unit := do
  match ← Act.look (·.current) with
  | none => return
  | some number =>
    Act.change fun w =>
      { changePool number (fun p => { p with closeRequests := p.closeRequests + 1 }) w with
        current := none }
    match ← Act.attempt (pass .closePool) with
    | .ok () => Act.note .info ("Closed Postgres pool " ++ owner.safeDsn)
    | .error e =>
      Act.note .error ("Error closing Postgres pool " ++ owner.safeDsn ++ ": " ++ e.text)

def acquire : Act StoreError Connection := do
  let home ← requirePool
  pass .acquire
  Act.of fun w =>
    let conn := ⟨w.acquired, home⟩
    (.ok conn, { w with acquired := w.acquired + 1, out := w.out ++ [conn] })

def handBack (conn : Connection) : Act StoreError Unit := do
  let number ← requirePool
  Act.change fun w =>
    { changePool number (fun p => { p with handedBack := p.handedBack ++ [conn] }) w with
      out := w.out.erase conn }
  pass .release

def release {ε : Type} (conn : Connection) : Act ε Unit := do
  match ← Act.attempt (handBack conn) with
  | .ok () => return
  | .error e => Act.note .warning ("Error releasing Postgres connection: " ++ e.text)

/-- Runs an operation with a connection of its own, which is released whatever the outcome. -/
def withConnection {α : Type} (body : Act StoreError α) : Act StoreError α := do
  let conn ← acquire
  let result ← Act.attempt body
  release conn
  Act.ofExcept result

end OnAir.Store
