import OnAir.Proofs.Store.Lifecycle

/-!
# Connections that are handed back

A connection is released through the pool in use at that time. So one that was acquired goes back to
the pool it was taken from as long as that pool has stayed in use. If the owner was closed in the
meantime, the release does not reach that pool, opened again or not.
-/

namespace OnAir.Store

open Act (run)

variable {α : Type} {owner : PoolOwner} {step : Step α} {conn : Connection} {w w' : World}

/-- The connection goes back to the pool it was taken from, and one less is out. -/
structure HandedBack (conn : Connection) (w w' : World) : Prop where
  home : ∃ pool, w.pools[conn.home]? = some pool
    ∧ w'.pools[conn.home]? = some (takeBack conn pool)
  out : w'.out = w.out.erase conn
  count : w'.out.length + 1 = w.out.length

/-- The connection does not go back to the pool it was taken from. If no pool is in use, it goes
nowhere and stays out. -/
structure Stranded (conn : Connection) (w w' : World) : Prop where
  home : w'.pools[conn.home]? = w.pools[conn.home]?
  closed : w.current = none → w' = { w with log := w.log ++
    [⟨.warning, "Error releasing Postgres connection: Postgres pool is not open"⟩] }

theorem Does.keeps_out (h : Does owner step w w') (hmem : conn ∈ w.out)
    (hne : step ≠ .release conn) : conn ∈ w'.out := by
  cases h with
  | opened _ _ _ _ hout => rwa [hout]
  | closed _ _ _ _ hout => rwa [hout]
  | took _ h =>
    rw [h.out]
    exact List.mem_append_left _ hmem
  | @gave _ other hstep _ _ _ hout =>
    have hother : conn ≠ other := by
      rintro rfl
      exact hne hstep
    rw [hout]
    exact (List.mem_erase_of_ne hother).mpr hmem
  | kept _ h => exact h.out.mem_iff.mpr hmem

theorem mem_out_after (steps : List (Step α)) (hmem : conn ∈ w.out)
    (hnever : .release conn ∉ steps) : conn ∈ (after owner steps w).out := by
  induction steps generalizing w with
  | nil => exact hmem
  | cons step steps ih =>
    rw [List.mem_cons, not_or] at hnever
    exact ih ((step.does owner w).keeps_out hmem (Ne.symm hnever.1)) hnever.2

theorem acquire_ok (h : run acquire w = (.ok conn, w')) : Taken conn.home w w' ∧ conn ∈ w'.out := by
  cases hcurrent : w.current with
  | none =>
    rw [acquire_closed hcurrent] at h
    cases h
  | some number =>
    obtain ⟨rfl, htaken, -⟩ := (acquire_taken hcurrent).ok h
    refine ⟨htaken, ?_⟩
    rw [htaken.out]
    exact List.mem_append_right _ (.head _)

theorem Tidy.exists_pool {number : Nat} (h : Tidy w) (hopen : w.current = some number) :
    ∃ pool, w.pools[number]? = some pool := by
  obtain ⟨pool, hpool, -⟩ := Option.map_eq_some_iff.mp ((h number).mpr hopen)
  exact ⟨pool, hpool⟩

theorem Tidy.release_home {ε : Type} (h : Tidy w) (hopen : w.current = some conn.home)
    (hmem : conn ∈ w.out) : HandedBack conn w (run (release conn : Act ε Unit) w).2 := by
  obtain ⟨w', hrun, hpools, -, hout⟩ := release_open (ε := ε) conn hopen
  obtain ⟨pool, hpool⟩ := h.exists_pool hopen
  rw [hrun]
  refine ⟨⟨pool, hpool, ?_⟩, hout, ?_⟩
  · rw [hpools, List.getElem?_modify_eq, hpool]
    rfl
  · rw [hout, List.length_erase_of_mem hmem]
    exact Nat.sub_add_cancel (List.length_pos_of_mem hmem)

theorem release_elsewhere {ε : Type} (hopen : w.current ≠ some conn.home) :
    Stranded conn w (run (release conn : Act ε Unit) w).2 := by
  cases hcurrent : w.current with
  | none =>
    rw [release_closed conn hcurrent]
    exact ⟨rfl, fun _ => rfl⟩
  | some number =>
    have hne : number ≠ conn.home := by
      rintro rfl
      exact hopen hcurrent
    obtain ⟨w', hrun, hpools, -, -⟩ := release_open (ε := ε) conn hcurrent
    rw [hrun]
    refine ⟨?_, fun hnone => ?_⟩
    · rw [hpools, List.getElem?_modify_ne _ _ hne]
    · rw [hcurrent] at hnone
      cases hnone

/-- A connection is taken from the pool in use and is out until it is released. If the owner was not
closed in between, whatever else has happened, the release hands it back to its pool; otherwise it
does not. -/
theorem handed_back_unless_closed (owner : PoolOwner) {start : World} (h : Unopened start)
    (before between : List (Step α))
    (hacquire : run acquire (after owner before start) = (.ok conn, w))
    (hnever : .release conn ∉ between) :
    let v := after owner between w
    let v' := (run (release conn : Act StoreError Unit) v).2
    (after owner before start).current = some conn.home ∧ conn ∈ v.out
      ∧ if between.any Step.closes then Stranded conn v v' else HandedBack conn v v' := by
  obtain ⟨htaken, hmem⟩ := acquire_ok hacquire
  have hopen : w.current = some conn.home := htaken.current.trans htaken.home
  have hdoes : Does owner (.acquire : Step α) (after owner before start) w := .took rfl htaken
  have htidy : Tidy w := (h.tidy.after owner before).kept hdoes
  -- the pool of the connection is in use as long as nothing has asked it to close
  have hasked := htidy.asked_after owner between hopen
  have hinUse := htidy.after owner between conn.home
  have hout : conn ∈ (after owner between w).out := mem_out_after between hmem hnever
  refine ⟨htaken.home, hout, ?_⟩
  rw [hasked] at hinUse
  cases hcloses : between.any Step.closes with
  | true =>
    refine release_elsewhere fun hcurrent => ?_
    have hzero := hinUse.mpr hcurrent
    rw [hcloses] at hzero
    cases hzero
  | false =>
    have hcurrent := hinUse.mp (by rw [hcloses]; rfl)
    exact (htidy.after owner between).release_home hcurrent hout

/-- Another connection is taken and released in the meantime, and the release of this one raises. -/
theorem handed_back_unless_closed_kept : ∃ (owner : PoolOwner) (conn : Connection) (w : World),
    let before : List (Step Nat) := [.openPool]
    let between : List (Step Nat) := [.enter, .acquire, .release ⟨1, 0⟩]
    let v := after owner between w
    let v' := (run (release conn : Act StoreError Unit) v).2
    let start := unopened [⟨.release, 2, ⟨.other, "RuntimeError", "boom"⟩⟩]
    Unopened start ∧ run acquire (after owner before start) = (.ok conn, w)
      ∧ .release conn ∉ between ∧ v.out = [conn] ∧ HandedBack conn v v' := by
  let owner : PoolOwner := .make "postgresql://db/gate" 4 (.ofInt 5)
  let before : List (Step Nat) := [.openPool]
  let between : List (Step Nat) := [.enter, .acquire, .release ⟨1, 0⟩]
  let start := unopened [⟨.release, 2, ⟨.other, "RuntimeError", "boom"⟩⟩]
  let w := (run acquire (after owner before start)).2
  have hunopened : Unopened start := unopened_spec _
  have hacquire : run acquire (after owner before start) = (.ok ⟨0, 0⟩, w) := rfl
  have hnever : .release ⟨0, 0⟩ ∉ between := by simp [between]
  have hmain := handed_back_unless_closed owner hunopened before between hacquire hnever
  exact ⟨owner, ⟨0, 0⟩, w, hunopened, hacquire, hnever, rfl, hmain.2.2⟩

/-- Nothing fails, but the owner is closed before the release: the connection stays out. If the
owner is opened again in time, it is the new pool that is given the connection. -/
theorem stranded_by_closing : ∃ (owner : PoolOwner) (start w : World) (conn : Connection),
    let before : List (Step Nat) := [.openPool]
    let closing : List (Step Nat) := [.closePool]
    let reopening : List (Step Nat) := [.closePool, .openPool]
    let left (between : List (Step Nat)) :=
      (run (release conn : Act StoreError Unit) (after owner between w)).2
    Unopened start ∧ start.faults = [] ∧ run acquire (after owner before start) = (.ok conn, w)
      ∧ (left closing).out = [conn] ∧ (left closing).pools.map (·.handedBack) = [[]]
      ∧ (left reopening).pools.map (·.handedBack) = [[], [conn]] := by
  let owner : PoolOwner := .make "postgresql://db/gate" 4 (.ofInt 5)
  let before : List (Step Nat) := [.openPool]
  exact ⟨owner, unopened [], (run acquire (after owner before (unopened []))).2, ⟨0, 0⟩,
    unopened_spec [], rfl, rfl, rfl, rfl, rfl⟩

end OnAir.Store
