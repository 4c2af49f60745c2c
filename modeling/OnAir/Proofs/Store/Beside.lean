import OnAir.Proofs.Store.Side

/-!
# Two stores side by side

Two ways in which worlds can stand beside one another. Worlds that are apart differ in their tables
alone. Worlds beside each other may also differ in their log lines, and in the faults that are to come
when a connection is released, which are only logged.
-/

namespace OnAir.Store

open Act (Alike Ambient run)

section
variable {T : Tables → Tables → Prop} {w v : World}

-- -----------------------------------------------------------------------------
-- Worlds apart
-- -----------------------------------------------------------------------------

/-- Worlds with related tables that are the same but for them. -/
inductive Apart (T : Tables → Tables → Prop) : World → World → Prop
  | mk (w : World) {t u : Tables} (h : T t u) :
    Apart T { w with tables := t } { w with tables := u }

namespace Apart

theorem mono {T' : Tables → Tables → Prop} (h : Apart T w v)
    (hT : T w.tables v.tables → T' w.tables v.tables) : Apart T' w v := by
  obtain ⟨w, h⟩ := h
  exact .mk w (hT h)

theorem alike_of {ε α : Type} {act : Act ε α} (hact : ∀ (w : World) (t : Tables),
    run act { w with tables := t } = ((run act w).1, { (run act w).2 with tables := t })) :
    Alike (Apart T) act := by
  rintro _ _ @⟨w, t, u, h⟩
  rw [hact w t, hact w u]
  exact ⟨rfl, .mk (run act w).2 h⟩

theorem ambient (T : Tables → Tables → Prop) : Ambient (Apart T) where
  clock := by
    rintro _ _ ⟨w, -⟩
    rfl
  runtime := by
    rintro _ _ ⟨w, -⟩
    rfl
  random := by
    rintro _ _ ⟨w, -⟩
    rfl
  provider := by
    rintro _ _ ⟨w, -⟩
    rfl
  log := by
    rintro _ _ entry ⟨w, h⟩
    exact .mk { w with log := w.log ++ [entry] } h
  draw := by
    rintro _ _ source ⟨w, h⟩
    exact .mk { w with random := source } h
  send := by
    rintro _ _ request ⟨w, h⟩
    exact .mk { w with sent := w.sent ++ [request] } h

theorem requirePool : Alike (Apart T) requirePool :=
  requirePool_alike <| by
    rintro _ _ ⟨w, -⟩
    rfl

theorem pass (event : Event) : Alike (Apart T) (pass event) := by
  refine alike_of fun w t => ?_
  simp only [Store.pass, Act.run_of]
  cases (nextFault event w.faults).1 <;> rfl

theorem handBack (conn : Connection) : Alike (Apart T) (handBack conn) :=
  requirePool.bind fun _ => Alike.bind (alike_of fun _ _ => rfl) fun _ => pass _

theorem side (T : Tables → Tables → Prop) : Side T (Apart T) where
  toAmbient := ambient T
  tables := by
    rintro _ _ ⟨w, h⟩
    exact h
  storeClock := by
    rintro _ _ ⟨w, -⟩
    rfl
  live := by
    rintro _ _ ⟨w, -⟩
    rfl
  setTables := by
    rintro _ _ t u ⟨w, -⟩ h
    exact .mk w h
  pass event _ := pass event
  takeTag _ := alike_of fun _ _ => rfl
  acquire := requirePool.bind fun _ => (pass _).bind fun _ => alike_of fun _ _ => rfl
  release conn := by
    refine (handBack conn).attempt.bind fun result => ?_
    cases result with
    | ok => exact .pure _
    | error e => exact (ambient T).note _ _

end Apart

-- -----------------------------------------------------------------------------
-- Worlds beside each other
-- -----------------------------------------------------------------------------

/-- A fault that an operation can notice; one in a release is only logged. -/
def Fault.matters (fault : Fault) : Bool :=
  fault.event ≠ .release

/-- Worlds with related tables that are alike in whatever an operation can notice. -/
structure Beside (T : Tables → Tables → Prop) (w v : World) : Prop where
  tables : T w.tables v.tables
  clock : w.clock = v.clock
  storeClock : w.storeClock = v.storeClock
  random : w.random = v.random
  faults : w.faults.filter Fault.matters = v.faults.filter Fault.matters
  pools : w.pools = v.pools
  current : w.current = v.current
  out : w.out = v.out
  acquired : w.acquired = v.acquired
  nextTag : w.nextTag = v.nextTag
  provider : w.provider = v.provider
  live : w.live = v.live
  sent : w.sent = v.sent
  runtime : w.runtime = v.runtime

theorem Beside.setLog (h : Beside T w v) (log log' : List Log.Entry) :
    Beside T { w with log } { v with log := log' } :=
  { h with }

theorem Beside.setTables (h : Beside T w v) {t u : Tables} (ht : T t u) :
    Beside T { w with tables := t } { v with tables := u } :=
  { h with tables := ht }

theorem Beside.of_tables (w : World) {t u : Tables} (h : T t u) :
    Beside T { w with tables := t } { w with tables := u } :=
  ⟨h, rfl, rfl, rfl, rfl, rfl, rfl, rfl, rfl, rfl, rfl, rfl, rfl, rfl⟩

theorem Beside.ambient (T : Tables → Tables → Prop) : Ambient (Beside T) where
  clock _ _ h := h.clock
  runtime _ _ h := h.runtime
  random _ _ h := h.random
  provider _ _ h := h.provider
  log _ _ _ h := h.setLog _ _
  draw _ _ _ h := { h with random := rfl }
  send _ _ request h := { h with sent := congrArg (· ++ [request]) h.sent }

-- -----------------------------------------------------------------------------
-- Faults
-- -----------------------------------------------------------------------------

theorem nextFault_filter {event : Event} (hevent : event ≠ .release) (faults : List Fault) :
    nextFault event (faults.filter Fault.matters)
      = ((nextFault event faults).1, (nextFault event faults).2.filter Fault.matters) := by
  induction faults with
  | nil => rfl
  | cons fault rest ih =>
    by_cases hmine : fault.event = event
    · have hmatters (n : Nat) : Fault.matters { fault with nth := n } = true := by
        simpa [Fault.matters, hmine] using hevent
      rw [List.filter_cons_of_pos (hmatters fault.nth), nextFault, nextFault, if_pos hmine,
        if_pos hmine]
      split
      · rfl
      · simp only [List.filter_cons_of_pos (hmatters _)]
    · by_cases hmatters : fault.matters = true
      · rw [List.filter_cons_of_pos hmatters, nextFault, nextFault, if_neg hmine, if_neg hmine, ih]
        simp only [List.filter_cons_of_pos hmatters]
      · rw [List.filter_cons_of_neg hmatters, nextFault, if_neg hmine, ih]
        simp only [List.filter_cons_of_neg hmatters]

theorem nextFault_release (faults : List Fault) :
    (nextFault .release faults).2.filter Fault.matters = faults.filter Fault.matters := by
  induction faults with
  | nil => rfl
  | cons fault rest ih =>
    by_cases hmine : fault.event = .release
    · have hmatters (n : Nat) : ¬Fault.matters { fault with nth := n } = true := by
        simp [Fault.matters, hmine]
      rw [List.filter_cons_of_neg (hmatters fault.nth), nextFault, if_pos hmine]
      split
      · rfl
      · simp only [List.filter_cons_of_neg (hmatters _)]
    · have hmatters : fault.matters = true := by simpa [Fault.matters] using hmine
      rw [List.filter_cons_of_pos hmatters, nextFault, if_neg hmine]
      simp only [List.filter_cons_of_pos hmatters, ih]

theorem pass_alike {event : Event} (hevent : event ≠ .release) :
    Alike (Beside T) (pass event) := by
  intro w v h
  have hw := nextFault_filter hevent w.faults
  have hv := nextFault_filter hevent v.faults
  rw [h.faults, hv, Prod.mk.injEq] at hw
  simp only [pass, Act.run_of, hw.1]
  cases (nextFault event w.faults).1 with
  | none => exact ⟨rfl, { h with faults := hw.2.symm }⟩
  | some e => exact ⟨rfl, { h with faults := hw.2.symm }⟩

theorem pass_release_beside (h : Beside T w v) :
    Beside T (run (pass .release) w).2 (run (pass .release) v).2 := by
  have hfaults : (nextFault .release w.faults).2.filter Fault.matters
      = (nextFault .release v.faults).2.filter Fault.matters := by
    rw [nextFault_release, nextFault_release, h.faults]
  simp only [pass, Act.run_of]
  cases (nextFault .release w.faults).1 <;> cases (nextFault .release v.faults).1 <;>
    exact { h with faults := hfaults }

theorem takeTag_beside (own : String) : Alike (Beside T) (takeTag own) := by
  intro w v h
  refine ⟨?_, { h with nextTag := rfl }⟩
  simp only [takeTag, Act.run_of, h.nextTag]

-- -----------------------------------------------------------------------------
-- Connections
-- -----------------------------------------------------------------------------

theorem acquire_alike : Alike (Beside T) acquire := by
  refine (requirePool_alike fun _ _ h => h.current).bind fun home =>
    (pass_alike (by decide)).bind fun _ w v h => ?_
  simp only [Act.run_of, h.acquired, h.out]
  exact ⟨trivial, { h with out := rfl, acquired := rfl }⟩

theorem handBack_beside (conn : Connection) (h : Beside T w v) :
    Beside T (run (handBack conn) w).2 (run (handBack conn) v).2 := by
  obtain ⟨result, w', v', hw, hv, h'⟩ := (requirePool_alike fun _ _ h => h.current).run_eq h
  simp only [handBack, Act.run_bind, hw, hv]
  cases result with
  | error e => exact h'
  | ok number =>
    refine pass_release_beside ?_
    simp only [changePool, h'.pools, h'.out]
    exact { h' with pools := rfl, out := rfl }

/-- A connection that cannot be handed back leaves a line in the log, and no other trace. -/
theorem release_logged {ε : Type} (conn : Connection) (w : World) :
    ∃ log, run (release conn : Act ε Unit) w
      = (.ok (), { (run (handBack conn) w).2 with log }) := by
  simp only [release, Act.run_bind, Act.run_attempt]
  cases (run (handBack conn) w).1 with
  | ok u => exact ⟨_, rfl⟩
  | error e => exact ⟨_, rfl⟩

theorem release_alike {ε : Type} (conn : Connection) :
    Alike (Beside T) (release conn : Act ε Unit) := by
  intro w v h
  obtain ⟨log, hw⟩ := release_logged (ε := ε) conn w
  obtain ⟨log', hv⟩ := release_logged (ε := ε) conn v
  rw [hw, hv]
  exact ⟨rfl, (handBack_beside conn h).setLog _ _⟩

theorem Beside.side (T : Tables → Tables → Prop) : Side T (Beside T) where
  toAmbient := Beside.ambient T
  tables _ _ h := h.tables
  storeClock _ _ h := h.storeClock
  live _ _ h := h.live
  setTables _ _ _ _ h ht := h.setTables ht
  pass _ hevent := pass_alike hevent
  takeTag := takeTag_beside
  acquire := acquire_alike
  release := release_alike

end
end OnAir.Store
