import OnAir.Proofs.Store.Outage

/-!
# What the owner of the pool may be asked

Opening and closing, taking and releasing a connection, and single statements. Whatever faults
strike, each of these steps does one of five things to the pools and to the connections that are out.
-/

namespace OnAir.Store

open Act (Triple run)

-- -----------------------------------------------------------------------------
-- Steps
-- -----------------------------------------------------------------------------

section
variable {α : Type}

/-- A single statement: it fetches something from the tables, changes them, or creates them. -/
inductive Statement (α : Type)
  | fetch (query : Query) (answer : Tables → α)
  | change (query : Query) (verb : String) (update : Tables → Instant → Option (Tables × Nat))
  | create (query : Query)

def Statement.act : Statement α → Act StoreError (α ⊕ String)
  | .fetch query answer => .inl <$> select query answer
  | .change query verb update => .inr <$> execute query verb update
  | .create query => .inr <$> createTables query

inductive Step (α : Type)
  | openPool
  | closePool
  | enter
  | exit
  | acquire
  | release (conn : Connection)
  | session (statement : Statement α)

inductive Outcome (α : Type)
  | done
  | owner (owner : PoolOwner)
  | connection (conn : Connection)
  | answer (answer : α ⊕ String)

/-- To enter the owner's scope is to open the pool, and to exit from it is to close the pool. -/
def Step.act (owner : PoolOwner) : Step α → Act StoreError (Outcome α)
  | .openPool => (fun _ => .done) <$> owner.openPool
  | .closePool => (fun _ => .done) <$> owner.closePool
  | .enter => (fun _ => .owner owner) <$> owner.openPool
  | .exit => (fun _ => .done) <$> owner.closePool
  | .acquire => .connection <$> Store.acquire
  | .release conn => (fun _ => .done) <$> Store.release conn
  | .session statement => .answer <$> withConnection statement.act

def Step.opens : Step α → Bool
  | .openPool | .enter => true
  | _ => false

def Step.closes : Step α → Bool
  | .closePool | .exit => true
  | _ => false

def Step.connects : Step α → Bool
  | .acquire | .session _ => true
  | _ => false

end

-- -----------------------------------------------------------------------------
-- Opening and closing
-- -----------------------------------------------------------------------------

def PoolOwner.newPool (owner : PoolOwner) : Pool :=
  ⟨owner.dsn, 1, owner.maxSize, owner.commandTimeout, 0, []⟩

def askToClose (pool : Pool) : Pool :=
  { pool with closeRequests := pool.closeRequests + 1 }

def takeBack (conn : Connection) (pool : Pool) : Pool :=
  { pool with handedBack := pool.handedBack ++ [conn] }

section
variable {ε : Type} {owner : PoolOwner} {w w' : World} {number : Nat}

theorem openPool_open (h : w.current = some number) :
    run owner.openPool w = (.ok (), w) := by
  simp [PoolOwner.openPool, Act.run_bind, h]

theorem openPool_closed (owner : PoolOwner) (h : w.current = none) : Triple owner.openPool w
    (fun _ w' => (nextFault .createPool w.faults).1 = none
      ∧ w'.pools = w.pools ++ [owner.newPool] ∧ w'.current = some w.pools.length
      ∧ w'.out = w.out)
    (fun e w' => (nextFault .createPool w.faults).1 = some e ∧ SamePools w w') := by
  simp only [Triple, PoolOwner.openPool, Act.run_bind, Act.run_look, h, Option.isNone_none,
    if_true, Act.run_note, pass, Act.run_of]
  rcases nextFault .createPool w.faults with ⟨_ | e, faults⟩
  · exact ⟨rfl, rfl, rfl, rfl⟩
  · exact ⟨rfl, rfl, h.symm, rfl, rfl⟩

theorem closePool_closed (h : w.current = none) :
    run (owner.closePool : Act ε Unit) w = (.ok (), w) := by
  simp [PoolOwner.closePool, Act.run_bind, h]

theorem closePool_open (h : w.current = some number) :
    ∃ w', run (owner.closePool : Act ε Unit) w = (.ok (), w')
      ∧ w'.pools = w.pools.modify number askToClose ∧ w'.current = none
      ∧ w'.out = w.out := by
  simp only [PoolOwner.closePool, Act.run_bind, Act.run_look, h, Act.run_change, changePool,
    Act.run_attempt, pass, Act.run_of]
  rcases nextFault .closePool w.faults with ⟨_ | e, faults⟩ <;> exact ⟨_, rfl, rfl, rfl, rfl⟩

-- -----------------------------------------------------------------------------
-- Connections
-- -----------------------------------------------------------------------------

theorem acquire_closed (h : w.current = none) : run acquire w = (.error .poolNotOpen, w) := by
  simp [acquire, requirePool, Act.run_bind, h]

theorem withConnection_closed {α : Type} (body : Act StoreError α) (h : w.current = none) :
    run (withConnection body) w = (.error .poolNotOpen, w) := by
  rw [withConnection, Act.run_bind, acquire_closed h]

theorem release_closed (conn : Connection) (h : w.current = none) :
    run (release conn : Act ε Unit) w = (.ok (), { w with log := w.log ++
      [⟨.warning, "Error releasing Postgres connection: Postgres pool is not open"⟩] }) := by
  simp [release, handBack, requirePool, Act.run_bind, h, StoreError.poolNotOpen]

/-- A connection released while a pool is in use goes to that pool, wherever it was taken from. -/
theorem release_open (conn : Connection) (h : w.current = some number) :
    ∃ w', run (release conn : Act ε Unit) w = (.ok (), w')
      ∧ w'.pools = w.pools.modify number (takeBack conn) ∧ w'.current = w.current
      ∧ w'.out = w.out.erase conn := by
  -- a release differs from handing back only in what is logged: errors end up there
  obtain ⟨log, hrun⟩ := release_logged (ε := ε) conn w
  obtain ⟨faults, -, hback⟩ := handBack_leaves conn h
  rw [hback] at hrun
  exact ⟨_, hrun, rfl, rfl, rfl⟩

theorem createTables_endures : Endures query.texts (createTables query) w :=
  .tells (logged_tells _ _) (send_endures.bind fun _ _ hv => .pure hv)

theorem Endures.map {α β : Type} {texts : List RawText} {body : Act StoreError α} (f : α → β)
    (h : Endures texts body w) : Endures texts (f <$> body) w := by
  rw [map_eq_pure_bind]
  exact h.bind fun _ _ hv => .pure hv

theorem session_returned {α : Type} (statement : Statement α) (w : World) :
    Returned w (run (withConnection statement.act) w).2 := by
  cases statement with
  | fetch query answer =>
    exact (withConnection_reports fun _ => select_endures.map _).returned
  | change query verb update =>
    exact (withConnection_reports fun _ => execute_endures.map _).returned
  | create query =>
    exact (withConnection_reports fun _ => createTables_endures.map _).returned

end

-- -----------------------------------------------------------------------------
-- What a step does
-- -----------------------------------------------------------------------------

section
variable {α : Type} {owner : PoolOwner} {step : Step α} {w w' : World} {number : Nat}

/-- All that a step can do to the pools and to the connections that are out. -/
inductive Does (owner : PoolOwner) (step : Step α) (w w' : World) : Prop
  | opened (hopens : step.opens = true) (hclosed : w.current = none)
    (hpools : w'.pools = w.pools ++ [owner.newPool])
    (hcurrent : w'.current = some w.pools.length) (hout : w'.out = w.out)
  | closed {number : Nat} (hcloses : step.closes = true) (hopen : w.current = some number)
    (hpools : w'.pools = w.pools.modify number askToClose)
    (hcurrent : w'.current = none) (hout : w'.out = w.out)
  | took {number : Nat} (hstep : step = .acquire) (h : Taken number w w')
  | gave {number : Nat} {conn : Connection} (hstep : step = .release conn)
    (hopen : w.current = some number)
    (hpools : w'.pools = w.pools.modify number (takeBack conn))
    (hcurrent : w'.current = w.current) (hout : w'.out = w.out.erase conn)
  | kept (hcloses : step.closes = true → w.current = none) (h : Returned w w')

theorem Does.of_same (hcloses : step.closes = true → w.current = none) (h : SamePools w w') :
    Does owner step w w' :=
  .kept hcloses h.returned

theorem openPool_does (hopens : step.opens = true) (hcloses : step.closes = false) :
    Does owner step w (run owner.openPool w).2 := by
  have hnot : step.closes = true → w.current = none := by simp [hcloses]
  cases hcurrent : w.current with
  | none =>
    refine Triple.world (Triple.mono (openPool_closed owner hcurrent) ?_ ?_)
    · rintro _ w' ⟨-, hpools, hnew, hout⟩
      exact .opened hopens hcurrent hpools hnew hout
    · rintro e w' ⟨-, hsame⟩
      exact .of_same hnot hsame
  | some number =>
    rw [openPool_open hcurrent]
    exact .of_same hnot ⟨rfl, rfl, rfl, rfl⟩

theorem closePool_does (hcloses : step.closes = true) :
    Does owner step w (run (owner.closePool : Act StoreError Unit) w).2 := by
  cases hcurrent : w.current with
  | none =>
    rw [closePool_closed hcurrent]
    exact .of_same (fun _ => hcurrent) ⟨rfl, rfl, rfl, rfl⟩
  | some number =>
    obtain ⟨w', hrun, hpools, hnone, hout⟩ := closePool_open (ε := StoreError) hcurrent
    rw [hrun]
    exact .closed hcloses hcurrent hpools hnone hout

theorem acquire_does : Does owner (.acquire : Step α) w (run acquire w).2 := by
  cases hcurrent : w.current with
  | none =>
    rw [acquire_closed hcurrent]
    exact .of_same nofun ⟨rfl, rfl, rfl, rfl⟩
  | some number =>
    refine Triple.world (Triple.mono (acquire_taken hcurrent) ?_ ?_)
    · rintro conn w' ⟨-, htaken, -⟩
      exact .took rfl htaken
    · rintro e w' ⟨hsame, -⟩
      exact .of_same nofun hsame

theorem release_does (conn : Connection) :
    Does owner (.release conn : Step α) w (run (release conn : Act StoreError Unit) w).2 := by
  cases hcurrent : w.current with
  | none =>
    rw [release_closed conn hcurrent]
    exact .of_same nofun ⟨rfl, rfl, rfl, rfl⟩
  | some number =>
    obtain ⟨w', hrun, hpools, hsame, hout⟩ := release_open (ε := StoreError) conn hcurrent
    rw [hrun]
    exact .gave rfl hcurrent hpools hsame hout

theorem Step.does (owner : PoolOwner) (step : Step α) (w : World) :
    Does owner step w (run (step.act owner) w).2 := by
  cases step <;> rw [act, Act.run_map]
  case openPool => exact openPool_does rfl rfl
  case closePool => exact closePool_does rfl
  case enter => exact openPool_does rfl rfl
  case exit => exact closePool_does rfl
  case acquire => exact acquire_does
  case release conn => exact release_does conn
  case session statement => exact .kept nofun (session_returned statement w)

-- -----------------------------------------------------------------------------
-- What a step ends with
-- -----------------------------------------------------------------------------

theorem Step.opens_triple (owner : PoolOwner) (hopens : step.opens = true)
    (hclosed : w.current = none) : Triple (step.act owner) w
      (fun _ w' => (nextFault .createPool w.faults).1 = none
        ∧ w'.pools = w.pools ++ [owner.newPool] ∧ w'.current = some w.pools.length
        ∧ w'.out = w.out)
      (fun e w' => (nextFault .createPool w.faults).1 = some e ∧ SamePools w w') := by
  have hopen := openPool_closed owner hclosed
  cases step with
  | openPool | enter =>
    rw [act, map_eq_pure_bind]
    exact hopen.bind fun _ _ h => .pure h
  -- no other step opens
  | _ => cases hopens

theorem Step.opens_again (owner : PoolOwner) (hopens : step.opens = true)
    (hopen : w.current = some number) : ∃ outcome, run (step.act owner) w = (.ok outcome, w) := by
  cases step with
  | openPool | enter =>
    rw [act, Act.run_map, openPool_open hopen]
    exact ⟨_, rfl⟩
  | _ => cases hopens

theorem Step.closes_ends (owner : PoolOwner) (w : World) (hcloses : step.closes = true) :
    ∃ outcome w', run (step.act owner) w = (.ok outcome, w') ∧ w'.current = none := by
  have hclose : ∃ w', run (owner.closePool : Act StoreError Unit) w = (.ok (), w')
      ∧ w'.current = none := by
    cases hcurrent : w.current with
    | none => exact ⟨w, closePool_closed hcurrent, hcurrent⟩
    | some number =>
      obtain ⟨w', hrun, -, hnone, -⟩ := closePool_open (ε := StoreError) hcurrent
      exact ⟨w', hrun, hnone⟩
  obtain ⟨w', hrun, hnone⟩ := hclose
  cases step with
  | closePool | exit =>
    rw [act, Act.run_map, hrun]
    exact ⟨_, w', rfl, hnone⟩
  | _ => cases hcloses

theorem Step.connects_closed (hconnects : step.connects = true) (hclosed : w.current = none) :
    run (step.act owner) w = (.error .poolNotOpen, w) := by
  cases step with
  | acquire =>
    rw [act, Act.run_map, acquire_closed hclosed]
    rfl
  | session statement =>
    rw [act, Act.run_map, withConnection_closed _ hclosed]
    rfl
  | _ => cases hconnects

end
end OnAir.Store
