import OnAir.App.Lifecycle
import OnAir.Proofs.App.Outage
import OnAir.Proofs.Store.Lifecycle

/-!
# From the start of an application to its end

The pool that an application opens is asked to close when the application stops, and a start that
fails earlier opens none. A start that fails while the tables are created is the exception: the pool
is open by then, the application never gets to its end, and nobody asks the pool to close.
-/

namespace OnAir

open Act (Triple run)

-- -----------------------------------------------------------------------------
-- Pools opened between two worlds
-- -----------------------------------------------------------------------------

namespace Store

/-- Every pool opened between the two worlds has been asked to close, once, and none is in use. -/
structure Closed (w w' : World) : Prop where
  current : w'.current = none
  asked : ∀ number, w.pools.length ≤ number → number < w'.pools.length → asked w' number = some 1

/-- One pool has been opened between the two worlds. It is in use and has not been asked to close. -/
structure LeftOpen (w w' : World) : Prop where
  count : w'.pools.length = w.pools.length + 1
  current : w'.current = some w.pools.length
  asked : asked w' w.pools.length = some 0

section
variable {w v w' : World} {owner : PoolOwner}

theorem LeftOpen.undisturbed (h : LeftOpen w v) (hv : Undisturbed v w') : LeftOpen w w' where
  count := hv.count.trans h.count
  current := hv.current.trans h.current
  asked := (hv.requests _).trans h.asked

theorem Closed.of_same (hclosed : w.current = none) (h : SamePools w w') : Closed w w' where
  current := h.current.trans hclosed
  asked _ hle hlt := absurd (h.pools ▸ hlt) (Nat.not_lt.mpr hle)

theorem LeftOpen.close {ε : Type} (h : LeftOpen w v) :
    Closed w (run (owner.closePool : Act ε Unit) v).2 := by
  obtain ⟨w', hrun, hpools, hnone, -⟩ : ∃ w', run (owner.closePool : Act ε Unit) v = (.ok (), w')
      ∧ w'.pools = v.pools.modify w.pools.length askToClose ∧ w'.current = none ∧ _ :=
    closePool_open h.current
  rw [hrun]
  refine ⟨hnone, fun number hle hlt => ?_⟩
  obtain rfl : number = w.pools.length := by
    rw [hpools, List.length_modify, h.count] at hlt
    omega
  rw [asked_askToClose hpools, if_pos rfl, h.asked]
  rfl

theorem openPool_struck (hclosed : w.current = none) : Triple owner.openPool w
    (fun _ w' => LeftOpen w w' ∧ Unstruck w w') (fun e w' => SamePools w w' ∧ Struck e w w') := by
  have hpending := nextFault_pending (by decide : Event.createPool ≠ .release) w.faults
  simp only [Triple, PoolOwner.openPool, Act.run_bind, Act.run_look, hclosed, Option.isNone_none,
    if_true, Act.run_note, pass, Act.run_of]
  rcases hnext : nextFault .createPool w.faults with ⟨_ | e, faults⟩ <;> rw [hnext] at hpending
  · refine ⟨⟨by simp, rfl, ?_⟩, hpending, rfl⟩
    rw [asked_newPool (rfl : _ = w.pools ++ [owner.newPool]), if_pos rfl]
  · exact ⟨⟨rfl, hclosed.symm, rfl, rfl⟩, hpending⟩

theorem createTables_struck {query : Query} (hquery : query.texts = []) :
    Triple (createTables query) w (fun _ w' => SamePools w w' ∧ Unstruck w w')
      (fun e w' => SamePools w w' ∧ Struck e w w') := by
  refine (logged_tells _ _).triple (Triple.bind (Triple.mono_error send_struck ?_) ?_)
    (fun _ _ log h => ⟨h.1.of_log log, h.2.of_log log⟩) fun _ _ log h => ⟨h.1.of_log log, h.2⟩
  · rintro e w' ⟨hsame, hstruck | ⟨-, refused, htexts, -⟩⟩
    · exact ⟨hsame, hstruck⟩
    · -- there is no text in it that could be refused
      rw [hquery] at htexts
      cases htexts
  · rintro _ v ⟨hv, -⟩
    exact .pure hv

end
end Store

open Store (Closed LeftOpen SamePools Struck Undisturbed Unstruck)

theorem Channel.Registry.initSchema_struck {w : World} {number : Nat}
    (hopen : w.current = some number) :
    Triple Channel.Registry.initSchema w (fun _ w' => Undisturbed w w' ∧ Unstruck w w')
      (fun _ w' => Undisturbed w w' ∧ ∃ cause, Struck cause w w') := by
  have hsession := Store.withConnection_struck hopen fun _ =>
    Store.createTables_struck schemaQuery_texts
  refine Triple.bind (Q := fun _ w' => Undisturbed w w' ∧ Unstruck w w')
    (Triple.handle (Triple.mono hsession (fun _ _ h => ⟨h.1.undisturbed, h.2⟩) fun _ _ h => h) ?_)
    fun _ _ h => .pure h
  rintro e v ⟨hreturned, hstruck⟩
  have hv := hreturned.undisturbed
  rw [Channel.interpret]
  cases e.family with
  | uniqueViolation | other => exact .fail ⟨hv, e, hstruck⟩
  | outage => exact Triple.of_run_error rfl ⟨hv.trans (.of_same rfl rfl), e, hstruck⟩

namespace App

open Http (Request)

-- -----------------------------------------------------------------------------
-- The lives of applications
-- -----------------------------------------------------------------------------

/-- What an application that has started goes through: it answers requests, and meanwhile anything
may happen that leaves its pool alone, such as time, faults to come and answers of the provider. -/
inductive Serving (app : App) : World → World → Prop
  | rest (w : World) : Serving app w w
  | request {w v : World} (request : Request) (h : Serving app w v) :
    Serving app w (app.serve request v).2
  | elapse {w v w' : World} (h : Serving app w v) (hsame : SamePools v w') : Serving app w w'

/-- A life from one world to another: the start fails, or the application starts, serves and
stops. -/
inductive Lifespan (config : Config) (environ : List (String × String)) (w : World) :
    Option StartError → World → Prop
  | failed {e : StartError} {w' : World} (h : run (start config environ) w = (.error e, w')) :
    Lifespan config environ w (some e) w'
  | stopped {app : App} {v u : World} (hstart : run (start config environ) w = (.ok app, v))
    (hserving : Serving app v u) :
    Lifespan config environ w none (run (app.stop : Act StartError Unit) u).2

section
variable {config : Config} {environ : List (String × String)} {w v w' : World} {app : App}

theorem Serving.undisturbed (h : Serving app w w') : Undisturbed w w' := by
  induction h with
  | rest => exact .of_same rfl rfl
  | request request h ih => exact ih.trans (app.serve_returned request _).undisturbed
  | elapse h hsame ih => exact ih.trans hsame.returned.undisturbed

/-- How a start can fail, and what it leaves behind. -/
inductive StartFailure (w w' : World) : StartError → Prop
  | settings {e : Settings.ReadError} (h : SamePools w w') : StartFailure w w' (.settings e)
  | store {e : Store.StoreError} (h : SamePools w w') (hstruck : Struck e w w') :
    StartFailure w w' (.store e)
  | registry {e : Channel.RegistryError} {cause : Store.StoreError} (h : LeftOpen w w')
    (hstruck : Struck cause w w') : StartFailure w w' (.registry e)

theorem warn_run {ε : Type} (settings : Settings) (w : World) :
    ∃ log, run (warn settings : Act ε Unit) w = (.ok (), { w with log }) := by
  refine ⟨(run (warn settings : Act ε Unit) w).2.log, ?_⟩
  unfold warn
  cases settings.loginConfigured <;> cases settings.cookiesConfigured <;> rfl

theorem start_triple (hclosed : w.current = none) : Triple (start config environ) w
    (fun _ w' => LeftOpen w w' ∧ Unstruck w w') (fun e w' => StartFailure w w' e) := by
  rw [start]
  cases Settings.ofConfig config with
  | error e => exact Triple.of_run_error rfl (.settings ⟨rfl, rfl, rfl, rfl⟩)
  | ok settings =>
    refine Triple.bind (Q := fun found w' => settings = found ∧ w = w') (.pure ⟨rfl, rfl⟩) ?_
    rintro _ _ ⟨rfl, rfl⟩
    refine Triple.bind (Q := fun _ v => ∃ log, v = { w with log }) (Triple.of_run rfl ⟨_, rfl⟩) ?_
    rintro _ _ ⟨log, rfl⟩
    obtain ⟨log, hwarn⟩ := warn_run (ε := StartError) settings { w with log }
    refine Triple.bind (Q := fun _ v => ∃ log, v = { w with log }) (Triple.of_run hwarn ⟨_, rfl⟩) ?_
    rintro _ _ ⟨log, rfl⟩
    have hopen : Triple (make settings config.storeUrl environ).pool.openPool { w with log } _ _ :=
      Store.openPool_struck hclosed
    refine Triple.bind (Triple.mapError hopen fun e v ⟨hsame, hstruck⟩ => ?_) ?_
    · exact .store ⟨hsame.pools, hsame.current, hsame.out, hsame.acquired⟩ hstruck
    · rintro _ v ⟨hleft, hcalm⟩
      have hleft : LeftOpen w v := ⟨hleft.count, hleft.current, hleft.asked⟩
      have hcalm : Unstruck w v := ⟨hcalm.faults, hcalm.runtime⟩
      have hschema := Channel.Registry.initSchema_struck hleft.current
      refine Triple.bind (Triple.mapError hschema fun e w' ⟨hw', cause, hstruck⟩ => ?_) ?_
      · exact .registry (hleft.undisturbed hw') (hcalm.struck hstruck)
      · rintro _ w' ⟨hw', hcalm'⟩
        exact .pure ⟨hleft.undisturbed hw', hcalm.trans hcalm'⟩

theorem stop_closes {ε : Type} (h : LeftOpen w v) :
    Closed w (run (app.stop : Act ε Unit) v).2 := by
  have hnoted : LeftOpen w { v with log := v.log ++ [⟨.info, "Application shutdown..."⟩] } :=
    h.undisturbed (.of_same rfl rfl)
  exact hnoted.close

/-- A life closes every pool that it has opened, whatever faults strike, unless a fault strikes while
the tables are created: then the start has failed with an error of the registry, and the one pool it
has opened is left open. -/
theorem lifespan_closes_unless_unprepared (hclosed : w.current = none) {ending : Option StartError}
    (h : Lifespan config environ w ending w') :
    ((∀ e, ending ≠ some (.registry e)) → Closed w w')
    ∧ ∀ e, ending = some (.registry e) → LeftOpen w w' ∧ ∃ cause, Struck cause w w' := by
  cases h with
  | failed hfailed =>
    cases (start_triple hclosed).error hfailed with
    | settings hsame | store hsame => exact ⟨fun _ => .of_same hclosed hsame, nofun⟩
    | registry hleft hstruck =>
      exact ⟨fun hother => absurd rfl (hother _), fun _ _ => ⟨hleft, _, hstruck⟩⟩
  | stopped hstart hserving =>
    obtain ⟨hleft, -⟩ := (start_triple hclosed).ok hstart
    exact ⟨fun _ => stop_closes (hleft.undisturbed hserving.undisturbed), nofun⟩

/-- An application starts, fails to answer a request and fails to close its pool properly; another
one finds no store to start with. Both leave no pool behind. -/
theorem lifespan_closes_unless_unprepared_served : ∃ (w w' v v' : World) (e : StartError),
    w.current = none ∧ Lifespan [] [] w none w' ∧ w'.faults = []
    ∧ w'.pools.map (·.closeRequests) = [1] ∧ Closed w w'
    ∧ v.current = none ∧ Lifespan [] [] v (some e) v' ∧ v'.pools = [] ∧ Closed v v' := by
  let w := Store.unopened [⟨.statement, 2, ⟨.other, "RuntimeError", "boom"⟩⟩,
    ⟨.closePool, 1, ⟨.other, "RuntimeError", "boom"⟩⟩]
  let v := Store.unopened [⟨.createPool, 1, ⟨.outage, "OSError", "connection refused"⟩⟩]
  let request : Request := ⟨"", "GET", "/channels.json", [], [], [], none, "", "", ""⟩
  have hserved : (match run (start [] []) w with
      | (.ok app, started) =>
        let ended := (run (app.stop : Act StartError Unit) (app.serve request started).2).2
        decide (ended.faults = [] ∧ ended.pools.map (·.closeRequests) = [1])
      | (.error _, _) => false) = true := by decide +kernel
  have hfailed : (match run (start [] []) v with
      | (.ok _, _) => false
      | (.error e, failed) =>
        decide (e = .store ⟨.outage, "OSError", "connection refused"⟩ ∧ failed.pools = [])) = true := by
    decide +kernel
  rcases hstart : run (start [] []) w with ⟨e | app, started⟩ <;> rw [hstart] at hserved
  · cases hserved
  rcases hstart' : run (start [] []) v with ⟨e | app', failed⟩ <;> rw [hstart'] at hfailed
  swap
  · cases hfailed
  obtain ⟨hfaults, hpools⟩ := of_decide_eq_true hserved
  obtain ⟨rfl, hnone⟩ := of_decide_eq_true hfailed
  have hlife : Lifespan [] [] w none _ := .stopped hstart (.request request (.rest started))
  have hlife' : Lifespan [] [] v (some _) failed := .failed hstart'
  exact ⟨w, _, v, failed, _, rfl, hlife, hfaults, hpools,
    (lifespan_closes_unless_unprepared rfl hlife).1 nofun, rfl, hlife', hnone,
    (lifespan_closes_unless_unprepared rfl hlife').1 nofun⟩

/-- A fault in the one statement of a start leaves a pool behind that nobody closes. -/
theorem left_open_unprepared : ∃ (config : Config) (w w' : World) (ending : Option StartError),
    w.pools = [] ∧ w.current = none ∧ Lifespan config [] w ending w'
    ∧ w'.current = some 0 ∧ Store.asked w' 0 = some 0 ∧ ¬Closed w w' := by
  let w := Store.unopened [⟨.statement, 1, ⟨.outage, "PostgresError", "deadlock detected"⟩⟩]
  have hfailed : (match run (start [] []) w with
      | (.ok _, _) => false
      | (.error _, failed) =>
        decide (failed.current = some 0 ∧ Store.asked failed 0 = some 0)) = true := by
    decide +kernel
  rcases hstart : run (start [] []) w with ⟨e | app, failed⟩ <;> rw [hstart] at hfailed
  swap
  · cases hfailed
  obtain ⟨hcurrent, hasked⟩ := of_decide_eq_true hfailed
  refine ⟨[], w, failed, some e, rfl, rfl, .failed hstart, hcurrent, hasked, fun hclosed => ?_⟩
  cases hcurrent.symm.trans hclosed.current

end
end App
end OnAir
