import OnAir.Store.Pool
import OnAir.Store.QueryLog

/-!
# Statements

A statement reads or changes the tables as a whole. A fault strikes before it has any effect, and
so does a text that cannot be stored; either way it leaves its line in the log. A transaction that
fails at any point leaves the tables as they were.
-/

namespace OnAir.Store

/-- Checks that a text can be stored: it must not hold a zero character, nor be broken. -/
def checkStorable (t : RawText) : Except TextError Unit :=
  if t.codes.contains 0 then .error .zeroCharacter
  else match t.proper with
    | .ok _ => .ok ()
    | .error e => .error (.surrogate e)

def Query.check (query : Query) (refusal : Refusal) : Except StoreError Unit :=
  (query.texts.forM checkStorable).mapError (refusal.error query.arguments)

def send (query : Query) : Act StoreError Unit := do
  pass .statement
  let runtime ← Act.look (·.runtime)
  Act.ofExcept (query.check runtime.refusal)

def Query.record {α : Type} (query : Query) (elapsed : Double) (result : Except StoreError α) :
    QueryRecord where
  query := .str query.text
  arguments := query.arguments
  elapsed := .float elapsed
  raised := match result with
    | .ok _ => none
    | .error e => some e

/-- Runs a statement, which leaves its line in the log however it ends. -/
def logged {α : Type} (query : Query) (body : Act StoreError α) : Act StoreError α := do
  let result ← Act.attempt body
  let runtime ← Act.look (·.runtime)
  Act.enter ((query.record (runtime.elapsed query.text) result).entry query.context)
  Act.ofExcept result

def select {α : Type} (query : Query) (answer : Tables → α) : Act StoreError α :=
  logged query do
    send query
    Act.look fun w => answer w.tables

def checkDates (times : List Instant) : Act StoreError Unit :=
  Act.ofExcept ((times.forM Instant.dated).mapError .undated)

def takeTag (own : String) : Act StoreError String :=
  .of fun w => (.ok (w.nextTag.getD own), { w with nextTag := none })

/-- Changes the tables; `verb` and the number of rows make the tag of the change. -/
def execute (query : Query) (verb : String)
    (update : Tables → Instant → Option (Tables × Nat)) : Act StoreError String :=
  logged query do
    send query
    match ← Act.look fun w => update w.tables w.storeClock with
    | none => Act.fail .duplicate
    | some (tables, count) =>
      Act.change fun w => { w with tables }
      takeTag (verb ++ " " ++ toString count)

/-- Creates the tables where they are missing, which they never are. -/
def createTables (query : Query) : Act StoreError String :=
  logged query do
    send query
    return "CREATE TABLE"

/-- A statement at an end of a transaction. The driver sends it of its own accord, so nobody is
named for it. -/
def bracket (text : String) (body : Act StoreError Unit) : Act StoreError Unit :=
  logged ⟨text, [], none⟩ body

def orRollBack {α : Type} (body : Act StoreError α) : Act StoreError α :=
  body.handle fun e => do
    bracket "ROLLBACK;" (pure ())
    Act.fail e

/-- Runs statements as one: if any of them fails, or the end of the transaction does, the tables
are as they were before. -/
def transaction {α : Type} (body : Act StoreError α) : Act StoreError α := do
  bracket "BEGIN;" (pass .begin)
  let before ← Act.look (·.tables)
  let whole : Act StoreError α := do
    let result ← orRollBack body
    bracket "COMMIT;" (pass .commit)
    return result
  whole.handle fun e => do
    Act.change fun w => { w with tables := before }
    Act.fail e

end OnAir.Store
