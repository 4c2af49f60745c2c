import OnAir.Proofs.Store.Steps

/-!
# The life of the pools

The owner is opened and closed, connections are taken and released and statements are run, in any
order and with any faults. Of the pools ever created only the one in use has not been asked to
close; every other was asked once, by the step that took it out of use.
-/

namespace OnAir.Store

open Act (run)

-- -----------------------------------------------------------------------------
-- Pools asked to close
-- -----------------------------------------------------------------------------

def asked (w : World) (number : Nat) : Option Nat :=
  w.pools[number]?.map (·.closeRequests)

/-- The same pool is in use in both worlds, and none has been created or asked to close. -/
structure Undisturbed (w w' : World) : Prop where
  current : w'.current = w.current
  count : w'.pools.length = w.pools.length
  requests : ∀ number, asked w' number = asked w number

/-- Exactly the pool in use has not been asked to close. -/
def Tidy (w : World) : Prop :=
  ∀ number, asked w number = some 0 ↔ w.current = some number

section
variable {α : Type} {owner : PoolOwner} {step : Step α} {w w' : World} {number : Nat}

theorem asked_newPool {n : Nat} (h : w'.pools = w.pools ++ [owner.newPool]) :
    asked w' n = if n = w.pools.length then some 0 else asked w n := by
  rw [asked, asked, h]
  split
  · next heq => simp [heq, PoolOwner.newPool]
  · next hne =>
    rcases Nat.lt_or_gt_of_ne hne with hlt | hgt
    · rw [List.getElem?_append_left hlt]
    · rw [List.getElem?_eq_none (by simp; omega), List.getElem?_eq_none (by omega)]

theorem asked_askToClose {n : Nat} (h : w'.pools = w.pools.modify number askToClose) :
    asked w' n = if number = n then (asked w n).map (· + 1) else asked w n := by
  rw [asked, asked, h, List.getElem?_modify]
  split
  · cases w.pools[n]? <;> rfl
  · cases w.pools[n]? <;> rfl

theorem Undisturbed.of_takeBack {conn : Connection} (hcurrent : w'.current = w.current)
    (h : w'.pools = w.pools.modify number (takeBack conn)) : Undisturbed w w' := by
  refine ⟨hcurrent, by rw [h, List.length_modify], fun n => ?_⟩
  rw [asked, asked, h, List.getElem?_modify]
  split <;> cases w.pools[n]? <;> rfl

theorem Undisturbed.of_same (hcurrent : w'.current = w.current) (h : w'.pools = w.pools) :
    Undisturbed w w' := by
  refine ⟨hcurrent, by rw [h], fun n => ?_⟩
  rw [asked, asked, h]

theorem Undisturbed.trans {v : World} (h : Undisturbed w v) (h' : Undisturbed v w') :
    Undisturbed w w' :=
  ⟨h'.current.trans h.current, h'.count.trans h.count,
    fun n => (h'.requests n).trans (h.requests n)⟩

theorem Returned.undisturbed (h : Returned w w') : Undisturbed w w' := by
  rcases h.pools with ⟨-, hpools⟩ | ⟨number, -, -, hpools⟩
  · exact .of_same h.current hpools
  · exact .of_takeBack h.current hpools

/-- For the pools a step opens one, closes the one in use, or does nothing of the kind. -/
theorem Does.pools (h : Does owner step w w') :
    (step.opens = true ∧ w.current = none ∧ w'.pools = w.pools ++ [owner.newPool]
        ∧ w'.current = some w.pools.length)
      ∨ (∃ number, step.closes = true ∧ w.current = some number
        ∧ w'.pools = w.pools.modify number askToClose ∧ w'.current = none)
      ∨ ((step.closes = true → w.current = none) ∧ Undisturbed w w') := by
  cases h with
  | opened hopens hclosed hpools hcurrent => exact .inl ⟨hopens, hclosed, hpools, hcurrent⟩
  | closed hcloses hopen hpools hcurrent =>
    exact .inr (.inl ⟨_, hcloses, hopen, hpools, hcurrent⟩)
  | took hstep h => exact .inr (.inr ⟨by simp [hstep, Step.closes], .of_same h.current h.pools⟩)
  | gave hstep hopen hpools hcurrent =>
    exact .inr (.inr ⟨by simp [hstep, Step.closes], .of_takeBack hcurrent hpools⟩)
  | kept hcloses h => exact .inr (.inr ⟨hcloses, h.undisturbed⟩)

/-- The owner has just been made: it has not created a pool. -/
structure Unopened (w : World) : Prop where
  pools : w.pools = []
  current : w.current = none

def unopened (faults : List Fault) : World :=
  { holding .empty with faults, pools := [], current := none }

theorem unopened_spec (faults : List Fault) : Unopened (unopened faults) :=
  ⟨rfl, rfl⟩

theorem Unopened.tidy (h : Unopened w) : Tidy w := by
  intro n
  simp [asked, h.pools, h.current]

theorem asked_length (w : World) : asked w w.pools.length = none := by
  simp [asked]

theorem Tidy.kept (h : Tidy w) (hdoes : Does owner step w w') : Tidy w' := by
  intro n
  rcases hdoes.pools with ⟨-, hclosed, hpools, hcurrent⟩ | ⟨number, -, hopen, hpools, hcurrent⟩
    | ⟨-, hsame⟩
  · rw [asked_newPool hpools, hcurrent]
    split
    · next heq => simp [heq]
    · next hne =>
      rw [h n, hclosed]
      simpa using Ne.symm hne
  · rw [asked_askToClose hpools, hcurrent]
    split
    · next heq => simp [← heq, (h number).mpr hopen]
    · next hne =>
      rw [h n, hopen]
      simpa using hne
  · rw [hsame.requests, hsame.current]
    exact h n

-- -----------------------------------------------------------------------------
-- Runs
-- -----------------------------------------------------------------------------

def after (owner : PoolOwner) (steps : List (Step α)) (w : World) : World :=
  steps.foldl (fun w step => (run (step.act owner) w).2) w

theorem Tidy.after (owner : PoolOwner) (steps : List (Step α)) (h : Tidy w) :
    Tidy (after owner steps w) := by
  induction steps generalizing w with
  | nil => exact h
  | cons step steps ih => exact ih (h.kept (step.does owner w))

theorem Tidy.asked_retired (owner : PoolOwner) (steps : List (Step α)) (h : Tidy w)
    (hasked : asked w number = some 1) :
    asked (Store.after owner steps w) number = some 1 := by
  induction steps generalizing w with
  | nil => exact hasked
  | cons step steps ih =>
    refine ih (h.kept (step.does owner w)) ?_
    rcases (step.does owner w).pools with ⟨-, -, hpools, -⟩ | ⟨m, -, hopen, hpools, -⟩
      | ⟨-, hsame⟩
    -- a new pool takes a number that no pool has yet
    · have hne : number ≠ w.pools.length := by
        rintro rfl
        rw [asked_length] at hasked
        cases hasked
      rw [asked_newPool hpools, if_neg hne, hasked]
    -- the pool in use is the one that has not been asked, so it is another
    · have hne : m ≠ number := by
        rintro rfl
        rw [(h m).mpr hopen] at hasked
        cases hasked
      rw [asked_askToClose hpools, if_neg hne, hasked]
    · rw [hsame.requests, hasked]

theorem Tidy.asked_after (owner : PoolOwner) (steps : List (Step α)) (h : Tidy w)
    (hopen : w.current = some number) :
    asked (Store.after owner steps w) number = some (if steps.any Step.closes then 1 else 0) := by
  induction steps generalizing w with
  | nil => exact (h number).mpr hopen
  | cons step steps ih =>
    have htidy := h.kept (step.does owner w)
    rw [List.any_cons]
    rcases (step.does owner w).pools with ⟨-, hclosed, -⟩ | ⟨m, hcloses, hopen', hpools, -⟩
      | ⟨hcloses, hsame⟩
    · rw [hclosed] at hopen
      cases hopen
    -- asked here for the first time; the steps that are left never ask again
    · obtain rfl : m = number := Option.some.inj (hopen'.symm.trans hopen)
      rw [hcloses, Bool.true_or, if_pos rfl]
      refine htidy.asked_retired owner steps ?_
      rw [asked_askToClose hpools, if_pos rfl, (h m).mpr hopen]
      rfl
    · have hnot : step.closes = false := by
        refine Bool.eq_false_iff.mpr fun hstep => ?_
        rw [hcloses hstep] at hopen
        cases hopen
      rw [hnot, Bool.false_or]
      exact ih htidy (hsame.current.trans hopen)

-- -----------------------------------------------------------------------------
-- Order
-- -----------------------------------------------------------------------------

/-- What is expected of a step made in the first world that ends as the last argument says. -/
structure Orderly (owner : PoolOwner) (step : Step α) (w : World)
    (ending : Except StoreError (Outcome α) × World) : Prop where
  /-- A pool is created only by opening, and only while there is none in use. -/
  created : ending.2.pools.length ≠ w.pools.length →
    step.opens = true ∧ w.current = none ∧ ending.2.pools = w.pools ++ [owner.newPool]
      ∧ ending.2.current = some w.pools.length
  /-- No two pools are there that have not been asked to close. -/
  alone : ∀ m n, asked ending.2 m = some 0 → asked ending.2 n = some 0 → m = n
  /-- A pool created here is asked to close once, by the first step after it that closes. -/
  asked : ending.2.pools.length ≠ w.pools.length → ∀ later : List (Step α),
    asked (after owner later ending.2) w.pools.length
      = some (if later.any Step.closes then 1 else 0)
  /-- After closing the pool is closed, whatever the store raises. -/
  closed : step.closes = true → (∃ outcome, ending.1 = .ok outcome) ∧ ending.2.current = none
  /-- Where opening fails, creating the pool has failed, and the pool is as closed as before. -/
  failed : ∀ e, step.opens = true → ending.1 = .error e →
    (nextFault .createPool w.faults).1 = some e ∧ ending.2.current = none
      ∧ ending.2.pools = w.pools
  /-- A closed pool can be opened, however it has become closed. -/
  reopened : step.opens = true → w.current = none → (nextFault .createPool w.faults).1 = none →
    (∃ outcome, ending.1 = .ok outcome) ∧ ending.2.current = some w.pools.length
  /-- There are no connections of a closed pool. -/
  refused : step.connects = true → w.current = none → ending = (.error .poolNotOpen, w)
  /-- A statement leaves as many connections out as there were. -/
  lent : ∀ statement, step = .session statement → ending.2.out.length = w.out.length

theorem Does.created (h : Does owner step w w') (hlength : w'.pools.length ≠ w.pools.length) :
    step.opens = true ∧ w.current = none ∧ w'.pools = w.pools ++ [owner.newPool]
      ∧ w'.current = some w.pools.length := by
  rcases h.pools with hopened | ⟨number, -, -, hpools, -⟩ | ⟨-, hsame⟩
  · exact hopened
  · exact absurd (by rw [hpools, List.length_modify]) hlength
  · exact absurd hsame.count hlength

theorem Tidy.orderly (h : Tidy w) (owner : PoolOwner) (step : Step α) :
    Orderly owner step w (run (step.act owner) w) := by
  have hdoes := step.does owner w
  have htidy := h.kept hdoes
  refine ⟨hdoes.created, ?alone, ?asked, ?closed, ?failed, ?reopened, ?refused, ?lent⟩
  case alone =>
    intro m n hm hn
    exact Option.some.inj (((htidy m).mp hm).symm.trans ((htidy n).mp hn))
  case asked =>
    intro hlength later
    obtain ⟨-, -, -, hcurrent⟩ := hdoes.created hlength
    exact htidy.asked_after owner later hcurrent
  case closed =>
    intro hcloses
    obtain ⟨outcome, w', hrun, hnone⟩ := step.closes_ends owner w hcloses
    rw [hrun]
    exact ⟨⟨outcome, rfl⟩, hnone⟩
  case failed =>
    intro e hopens herror
    cases hcurrent : w.current with
    | none =>
      have hrun : run (step.act owner) w = (.error e, (run (step.act owner) w).2) :=
        Prod.ext herror rfl
      obtain ⟨hstruck, hsame⟩ := (Step.opens_triple owner hopens hcurrent).error hrun
      exact ⟨hstruck, hsame.current.trans hcurrent, hsame.pools⟩
    | some number =>
      obtain ⟨outcome, hrun⟩ := Step.opens_again owner hopens hcurrent
      rw [hrun] at herror
      cases herror
  case reopened =>
    intro hopens hclosed hcalm
    have hopen := Step.opens_triple owner hopens hclosed
    rcases hrun : run (step.act owner) w with ⟨e | outcome, w'⟩
    · obtain ⟨hstruck, -⟩ := hopen.error hrun
      rw [hcalm] at hstruck
      cases hstruck
    · obtain ⟨-, -, hcurrent, -⟩ := hopen.ok hrun
      exact ⟨⟨outcome, rfl⟩, hcurrent⟩
  case refused =>
    intro hconnects hclosed
    exact Step.connects_closed hconnects hclosed
  case lent =>
    rintro statement rfl
    rw [Step.act, Act.run_map]
    exact (session_returned statement w).out.length_eq

/-- Whatever steps an owner has been through, with whatever faults, the next one is in order. -/
theorem pools_open_and_close_in_turn (owner : PoolOwner) {start : World} (h : Unopened start)
    (before : List (Step α)) (step : Step α) :
    Orderly owner step (after owner before start)
      (run (step.act owner) (after owner before start)) :=
  (h.tidy.after owner before).orderly owner step

/-- An owner is opened in vain, then opened, used and closed with an error, and opened again. -/
theorem pools_open_and_close_in_turn_reopened : ∃ (owner : PoolOwner) (start : World),
    let before : List (Step Nat) := [.enter, .openPool,
      .session (.create ⟨"CREATE TABLE", [], none⟩), .exit, .openPool]
    let step : Step Nat := .acquire
    let w := after owner before start
    Unopened start ∧ start.faults.length = 3 ∧ w.faults = []
      ∧ w.pools.map (·.closeRequests) = [1, 0] ∧ w.current = some 1 ∧ w.out = []
      ∧ Orderly owner step w (run (step.act owner) w) := by
  let owner : PoolOwner := .make "postgresql://db/gate" 4 (.ofInt 5)
  let start := unopened [⟨.createPool, 1, ⟨.other, "OSError", "connection refused"⟩⟩,
    ⟨.statement, 1, ⟨.outage, "TimeoutError", ""⟩⟩,
    ⟨.closePool, 1, ⟨.other, "RuntimeError", "boom"⟩⟩]
  refine ⟨owner, start, unopened_spec _, rfl, ?_, ?_, ?_, ?_, ?_⟩
  · decide +kernel
  · decide +kernel
  · decide +kernel
  · decide +kernel
  · exact pools_open_and_close_in_turn owner (unopened_spec _) _ _

end
end OnAir.Store
