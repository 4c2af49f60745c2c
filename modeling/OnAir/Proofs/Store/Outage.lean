import OnAir.Proofs.Store.Beside
import OnAir.Proofs.Store.Outcome

/-!
# Outages of the store

In an operation the store is out of order if a fault of that family strikes, at whatever event, or
if one of the texts sent is refused for such a reason. What is done over a connection raises in that
case an error of the family, and in no other; and the connection goes back to its pool in any case.
-/

namespace OnAir.Store

open Act (Triple run)

variable {w w' v v' : World} {e : StoreError} {texts : List RawText} {query : Query}

-- -----------------------------------------------------------------------------
-- Faults that strike
-- -----------------------------------------------------------------------------

/-- What the faults to come will raise; one in a release raises nothing. -/
def pending (faults : List Fault) : List StoreError :=
  (faults.filter Fault.matters).map (·.error)

/-- Between the two worlds one fault has struck, and this is what it has raised. -/
def Struck (e : StoreError) (w w' : World) : Prop :=
  (pending w.faults).Perm (e :: pending w'.faults)

structure Unstruck (w w' : World) : Prop where
  faults : (pending w.faults).Perm (pending w'.faults)
  runtime : w'.runtime = w.runtime

instance : Decidable (Struck e w w') :=
  inferInstanceAs (Decidable (List.Perm _ _))

theorem Struck.unique {e' : StoreError} (h : Struck e w w') (h' : Struck e' w w') : e = e' := by
  have hcons : (e :: pending w'.faults).Perm (e' :: pending w'.faults) := h.symm.trans h'
  have hsingle : ([e] ++ pending w'.faults).Perm ([e'] ++ pending w'.faults) := hcons
  simpa using (List.perm_append_right_iff _).mp hsingle

theorem Struck.not_unstruck (h : Struck e w w') : ¬Unstruck w w' := by
  intro hcalm
  have hlength := h.length_eq
  rw [hcalm.faults.length_eq, List.length_cons] at hlength
  omega

theorem Unstruck.refl (w : World) : Unstruck w w :=
  ⟨.refl _, rfl⟩

theorem Unstruck.trans (h : Unstruck w v) (h' : Unstruck v w') : Unstruck w w' :=
  ⟨h.faults.trans h'.faults, h'.runtime.trans h.runtime⟩

theorem Unstruck.struck (h : Unstruck w v) (h' : Struck e v w') : Struck e w w' :=
  h.faults.trans h'

theorem Struck.then_unstruck (h : Struck e w v) (h' : Unstruck v w') : Struck e w w' :=
  List.Perm.trans h (h'.faults.cons e)

theorem nextFault_pending {event : Event} (hevent : event ≠ .release) (faults : List Fault) :
    (pending faults).Perm
      ((nextFault event faults).1.toList ++ pending (nextFault event faults).2) := by
  induction faults with
  | nil => exact .refl _
  | cons fault rest ih =>
    by_cases hmine : fault.event = event
    · have hmatters (n : Nat) : Fault.matters { fault with nth := n } = true := by
        simpa [Fault.matters, hmine] using hevent
      have hpending (n : Nat) :
          pending ({ fault with nth := n } :: rest) = fault.error :: pending rest := by
        simp only [pending, List.filter_cons_of_pos (hmatters n), List.map_cons]
      rw [nextFault, if_pos hmine]
      split
      · exact .of_eq (hpending fault.nth)
      · exact .of_eq ((hpending fault.nth).trans (hpending _).symm)
    · rw [nextFault, if_neg hmine]
      by_cases hmatters : fault.matters = true
      · simp only [pending, List.filter_cons_of_pos hmatters, List.map_cons] at ih ⊢
        exact (ih.cons _).trans List.perm_middle.symm
      · simp only [pending, List.filter_cons_of_neg hmatters] at ih ⊢
        exact ih

theorem pending_release (faults : List Fault) :
    pending (nextFault .release faults).2 = pending faults := by
  rw [pending, nextFault_release, pending]

-- -----------------------------------------------------------------------------
-- Outages
-- -----------------------------------------------------------------------------

def Refusal.familyOf (refusal : Refusal) : TextError → Family
  | .zeroCharacter => .outage
  | .surrogate _ => refusal.family

@[simp] theorem Refusal.error_family (refusal : Refusal) (arguments : List Argument)
    (e : TextError) : (refusal.error arguments e).family = refusal.familyOf e := by
  cases e <;> rfl

/-- Between the two worlds, in an operation that sends these texts, the store is out of order: a
fault of that family strikes, or with the pool open and without a fault a text is refused so. -/
inductive Outage (texts : List RawText) (w w' : World) : Prop
  | fault {e : StoreError} (h : Struck e w w') (hfamily : e.family = .outage)
  | text {e : TextError} (hopen : w.current ≠ none) (h : Unstruck w w')
    (htexts : texts.forM checkStorable = .error e)
    (hfamily : w.runtime.refusal.familyOf e = .outage)

theorem Struck.outage_iff (h : Struck e w w') : Outage texts w w' ↔ e.family = .outage := by
  refine ⟨?_, .fault h⟩
  rintro (⟨h', hfamily⟩ | ⟨-, hcalm, -, -⟩)
  · rwa [h.unique h']
  · exact absurd hcalm h.not_unstruck

theorem Unstruck.not_outage (h : Unstruck w w')
    (htexts : texts.forM checkStorable = .ok () ∨ w.current = none) : ¬Outage texts w w' := by
  rintro (⟨hstruck, -⟩ | ⟨hopen, -, herror, -⟩)
  · exact hstruck.not_unstruck h
  · cases htexts with
    | inl hok =>
      rw [hok] at herror
      cases herror
    | inr hclosed => exact hopen hclosed

/-- An outage is told from the faults of the two worlds, from whether the pool is open and from the
driver. -/
theorem outage_congr (hfaults : v.faults = w.faults) (hcurrent : v.current = w.current)
    (hruntime : v.runtime = w.runtime) (hfaults' : v'.faults = w'.faults)
    (hruntime' : v'.runtime = w'.runtime) : Outage texts v v' ↔ Outage texts w w' := by
  have hstruck (e : StoreError) : Struck e v v' ↔ Struck e w w' := by
    rw [Struck, Struck, hfaults, hfaults']
  have hcalm : Unstruck v v' ↔ Unstruck w w' := by
    constructor <;> intro h
    · exact ⟨hfaults ▸ hfaults' ▸ h.faults, hruntime ▸ hruntime' ▸ h.runtime⟩
    · exact ⟨hfaults.symm ▸ hfaults'.symm ▸ h.faults, hruntime.symm ▸ hruntime'.symm ▸ h.runtime⟩
  constructor
  · rintro (⟨h, hfamily⟩ | ⟨hopen, h, htexts, hfamily⟩)
    · exact .fault ((hstruck _).mp h) hfamily
    · exact .text (hcurrent ▸ hopen) (hcalm.mp h) htexts (hruntime ▸ hfamily)
  · rintro (⟨h, hfamily⟩ | ⟨hopen, h, htexts, hfamily⟩)
    · exact .fault ((hstruck _).mpr h) hfamily
    · exact .text (hcurrent ▸ hopen) (hcalm.mpr h) htexts (hruntime ▸ hfamily)

inductive Cause (texts : List RawText) (e : StoreError) (w w' : World) : Prop
  | fault (h : Struck e w w')
  | text {refused : TextError} (h : Unstruck w w') (htexts : texts.forM checkStorable = .error refused)
    (hfamily : e.family = w.runtime.refusal.familyOf refused)
  | own (h : Unstruck w w') (htexts : texts.forM checkStorable = .ok ())
    (hfamily : e.family ≠ .outage)

theorem Cause.outage_iff (hopen : w.current ≠ none) (h : Cause texts e w w') :
    e.family = .outage ↔ Outage texts w w' := by
  cases h with
  | fault h => exact h.outage_iff.symm
  | text h htexts hfamily =>
    rw [hfamily]
    refine ⟨.text hopen h htexts, ?_⟩
    rintro (⟨hstruck, -⟩ | ⟨-, -, htexts', houtage⟩)
    · exact absurd h hstruck.not_unstruck
    · rw [htexts] at htexts'
      cases htexts'
      exact houtage
  | own h htexts hfamily => exact iff_of_false hfamily (h.not_outage (.inl htexts))

theorem Cause.of_unstruck (hv : Unstruck w v) (h : Cause texts e v w') : Cause texts e w w' := by
  cases h with
  | fault h => exact .fault (hv.struck h)
  | text h htexts hfamily => exact .text (hv.trans h) htexts (hv.runtime ▸ hfamily)
  | own h htexts hfamily => exact .own (hv.trans h) htexts hfamily

theorem Cause.then_unstruck (h : Cause texts e w v) (hv : Unstruck v w') : Cause texts e w w' := by
  cases h with
  | fault h => exact .fault (h.then_unstruck hv)
  | text h htexts hfamily => exact .text (h.trans hv) htexts hfamily
  | own h htexts hfamily => exact .own (h.trans hv) htexts hfamily

-- -----------------------------------------------------------------------------
-- Statements
-- -----------------------------------------------------------------------------

structure SamePools (w w' : World) : Prop where
  pools : w'.pools = w.pools
  current : w'.current = w.current
  out : w'.out = w.out
  acquired : w'.acquired = w.acquired

theorem SamePools.trans (h : SamePools w v) (h' : SamePools v w') : SamePools w w' :=
  ⟨h'.pools.trans h.pools, h'.current.trans h.current, h'.out.trans h.out,
    h'.acquired.trans h.acquired⟩

theorem SamePools.of_tables (h : SamePools w w') (t : Tables) :
    SamePools w { w' with tables := t } :=
  { h with }

theorem SamePools.of_log (h : SamePools w w') (log : List Log.Entry) :
    SamePools w { w' with log } :=
  { h with }

theorem Unstruck.of_tables (h : Unstruck w w') (t : Tables) : Unstruck w { w' with tables := t } :=
  { h with }

theorem Unstruck.of_log (h : Unstruck w w') (log : List Log.Entry) :
    Unstruck w { w' with log } :=
  { h with }

/-- Something done over a connection that leaves all connections alone: it succeeds if no fault
strikes and its texts can be stored, or it fails for one of the causes there are. -/
def Endures {α : Type} (texts : List RawText) (body : Act StoreError α) (w : World) : Prop :=
  Triple body w
    (fun _ w' => (SamePools w w' ∧ Unstruck w w') ∧ texts.forM checkStorable = .ok ())
    (fun e w' => SamePools w w' ∧ Cause texts e w w')

theorem Endures.of_texts {α : Type} {body : Act StoreError α} {texts' : List RawText}
    (h : Endures texts body w) (heq : texts.forM checkStorable = texts'.forM checkStorable) :
    Endures texts' body w := by
  refine Triple.mono h (fun _ _ h => heq ▸ h) ?_
  rintro e w' ⟨hsame, hcause⟩
  refine ⟨hsame, ?_⟩
  cases hcause with
  | fault h => exact .fault h
  | text h htexts hfamily => exact .text h (heq ▸ htexts) hfamily
  | own h htexts hfamily => exact .own h (heq ▸ htexts) hfamily

theorem pass_struck {event : Event} (hevent : event ≠ .release) :
    Triple (pass event) w (fun _ w' => SamePools w w' ∧ Unstruck w w')
      (fun e w' => SamePools w w' ∧ Struck e w w') := by
  have hpending := nextFault_pending hevent w.faults
  rw [Triple, pass, Act.run_of]
  rcases hnext : nextFault event w.faults with ⟨_ | e, faults⟩ <;> rw [hnext] at hpending
  · exact ⟨⟨rfl, rfl, rfl, rfl⟩, hpending, rfl⟩
  · exact ⟨⟨rfl, rfl, rfl, rfl⟩, hpending⟩

section
variable {α : Type}

theorem Endures.tells {body body' : Act StoreError α} (hbody : Tells body' body)
    (h : Endures texts body w) : Endures texts body' w := by
  refine hbody.triple h ?_ ?_
  · rintro _ _ log ⟨⟨hsame, hcalm⟩, htexts⟩
    exact ⟨⟨hsame.of_log log, hcalm.of_log log⟩, htexts⟩
  · rintro e w' log ⟨hsame, hcause⟩
    refine ⟨hsame.of_log log, ?_⟩
    cases hcause with
    | fault h => exact .fault h
    | text h htexts hfamily => exact .text (h.of_log log) htexts hfamily
    | own h htexts hfamily => exact .own (h.of_log log) htexts hfamily

theorem send_struck : Triple (send query) w
    (fun _ w' => (SamePools w w' ∧ Unstruck w w') ∧ query.texts.forM checkStorable = .ok ())
    (fun e w' => SamePools w w' ∧ (Struck e w w' ∨ Unstruck w w'
      ∧ ∃ refused, query.texts.forM checkStorable = .error refused
        ∧ e = w.runtime.refusal.error query.arguments refused)) := by
  refine Triple.bind (Triple.mono_error (pass_struck (by decide)) ?_) ?_
  · intro e w' h
    exact ⟨h.1, .inl h.2⟩
  · intro _ v hv
    refine Triple.bind (Q := fun runtime v' => runtime = w.runtime ∧ v = v')
      (.look ⟨hv.2.runtime, rfl⟩) ?_
    rintro _ _ ⟨rfl, rfl⟩
    refine .ofExcept (fun _ hcheck => ⟨hv, texts_of_check hcheck⟩) fun e hcheck => ⟨hv.1, .inr ?_⟩
    cases htexts : query.texts.forM checkStorable with
    | ok u => exact nomatch (check_ok htexts).symm.trans hcheck
    | error refused =>
      exact ⟨hv.2, refused, rfl, (Except.error.inj ((check_error htexts).symm.trans hcheck)).symm⟩

theorem send_endures : Endures query.texts (send query) w := by
  refine Triple.mono_error send_struck ?_
  rintro e w' ⟨hsame, hstruck | ⟨hcalm, refused, htexts, rfl⟩⟩
  · exact ⟨hsame, .fault hstruck⟩
  · exact ⟨hsame, .text hcalm htexts (Refusal.error_family _ _ _)⟩

theorem select_endures {answer : Tables → α} : Endures query.texts (select query answer) w :=
  .tells (logged_tells _ _) (send_endures.bind fun _ _ hv => .look hv)

theorem execute_endures {verb : String} {update : Tables → Instant → Option (Tables × Nat)} :
    Endures query.texts (execute query verb update) w := by
  refine .tells (logged_tells _ _) (send_endures.bind fun _ v hv => ?_)
  refine Triple.bind (Q := fun _ v' => v = v') (.look rfl) ?_
  rintro changed _ rfl
  cases changed with
  | none => exact .fail ⟨hv.1.1, .own hv.1.2 hv.2 (by decide)⟩
  | some change => exact Triple.of_run rfl ⟨⟨{ hv.1.1 with }, { hv.1.2 with }⟩, hv.2⟩

theorem execute_struck {verb : String} (update : Tables → Instant → Tables × Nat) :
    Triple (execute query verb fun t now => some (update t now)) w
      (fun _ w' => (SamePools w w' ∧ Unstruck w w') ∧ query.texts.forM checkStorable = .ok ())
      (fun e w' => SamePools w w' ∧ (Struck e w w' ∨ Unstruck w w'
        ∧ ∃ refused, query.texts.forM checkStorable = .error refused
          ∧ e = w.runtime.refusal.error query.arguments refused)) := by
  refine (logged_tells _ _).triple (send_struck.bind ?_) ?_ ?_
  · rintro _ v ⟨⟨hsame, hcalm⟩, htexts⟩
    exact Triple.of_run rfl ⟨⟨{ hsame with }, { hcalm with }⟩, htexts⟩
  · rintro _ _ log ⟨⟨hsame, hcalm⟩, htexts⟩
    exact ⟨⟨hsame.of_log log, hcalm.of_log log⟩, htexts⟩
  · rintro e w' log ⟨hsame, hstruck | ⟨hcalm, hrefused⟩⟩
    · exact ⟨hsame.of_log log, .inl hstruck⟩
    · exact ⟨hsame.of_log log, .inr ⟨hcalm.of_log log, hrefused⟩⟩

theorem bracket_struck {body : Act StoreError Unit} (text : String)
    (h : Triple body w (fun _ w' => SamePools w w' ∧ Unstruck w w')
      (fun e w' => SamePools w w' ∧ Struck e w w')) :
    Triple (bracket text body) w (fun _ w' => SamePools w w' ∧ Unstruck w w')
      (fun e w' => SamePools w w' ∧ Struck e w w') :=
  (logged_tells _ _).triple h (fun _ _ log h => ⟨h.1.of_log log, h.2.of_log log⟩)
    fun _ _ log h => ⟨h.1.of_log log, h.2⟩

theorem transaction_endures {body : Act StoreError α} (hbody : ∀ v, Endures texts body v) :
    Endures texts (transaction body) w := by
  refine Triple.bind (Triple.mono_error (bracket_struck _ (pass_struck (by decide)))
    fun e w' h => ⟨h.1, .fault h.2⟩) fun _ v hv => ?_
  refine Triple.bind (Q := fun _ v' => v = v') (.look rfl) ?_
  rintro before _ rfl
  refine Triple.handle (E := fun e w' => SamePools w w' ∧ Cause texts e w w') ?_ ?_
  · refine Triple.bind (Triple.mono_error (Endures.tells (orRollBack_tells body) (hbody v)) ?_) ?_
    · intro e w' h
      exact ⟨hv.1.trans h.1, h.2.of_unstruck hv.2⟩
    · rintro a v' ⟨⟨hpools, hcalm⟩, htexts⟩
      refine Triple.bind (Triple.mono_error (bracket_struck _ (pass_struck (by decide))) ?_)
        fun _ w' h => ?_
      · intro e w' h
        exact ⟨(hv.1.trans hpools).trans h.1, .fault ((hv.2.trans hcalm).struck h.2)⟩
      · exact Triple.pure ⟨⟨(hv.1.trans hpools).trans h.1, (hv.2.trans hcalm).trans h.2⟩, htexts⟩
  · intro e w' h
    refine Triple.of_run_error rfl ⟨h.1.of_tables _, ?_⟩
    cases h.2 with
    | fault h => exact .fault h
    | text h htexts hfamily => exact .text (h.of_tables _) htexts hfamily
    | own h htexts hfamily => exact .own (h.of_tables _) htexts hfamily

end

-- -----------------------------------------------------------------------------
-- Connections
-- -----------------------------------------------------------------------------

/-- What was taken from the pool between the two worlds is back in it: one connection, or none. -/
structure Returned (w w' : World) : Prop where
  current : w'.current = w.current
  out : w'.out.Perm w.out
  pools : w'.acquired = w.acquired ∧ w'.pools = w.pools ∨
    ∃ number, w.current = some number ∧ w'.acquired = w.acquired + 1
      ∧ w'.pools = w.pools.modify number fun pool =>
        { pool with handedBack := pool.handedBack ++ [⟨w.acquired, number⟩] }

theorem SamePools.returned (h : SamePools w w') : Returned w w' :=
  ⟨h.current, .of_eq h.out, .inl ⟨h.acquired, h.pools⟩⟩

theorem SamePools.then_returned (h : SamePools w v) (h' : Returned v w') : Returned w w' where
  current := h'.current.trans h.current
  out := h.out ▸ h'.out
  pools := by
    have hpools := h'.pools
    rwa [h.pools, h.current, h.acquired] at hpools

theorem Returned.then_same (h : Returned w v) (h' : SamePools v w') : Returned w w' where
  current := h'.current.trans h.current
  out := h'.out ▸ h.out
  pools := by
    have hpools := h.pools
    rwa [← h'.pools, ← h'.acquired] at hpools

/-- One connection of a pool has been taken between the two worlds and is still out. -/
structure Taken (number : Nat) (w w' : World) : Prop where
  home : w.current = some number
  pools : w'.pools = w.pools
  current : w'.current = w.current
  out : w'.out = w.out ++ [⟨w.acquired, number⟩]
  acquired : w'.acquired = w.acquired + 1

theorem acquire_taken {number : Nat} (hpool : w.current = some number) :
    Triple acquire w
      (fun conn w' => conn = ⟨w.acquired, number⟩ ∧ Taken number w w' ∧ Unstruck w w')
      (fun e w' => SamePools w w' ∧ Struck e w w') := by
  have hhome : run requirePool w = (.ok number, w) := by
    simp [requirePool, Act.run_bind, hpool]
  refine Triple.bind (Q := fun home v => home = number ∧ w = v) (.of_run hhome ⟨rfl, rfl⟩) ?_
  rintro _ _ ⟨rfl, rfl⟩
  refine (pass_struck (by decide)).bind ?_
  rintro _ v ⟨hv, hcalm⟩
  refine Triple.of_run rfl ⟨by rw [hv.acquired], ?_, { hcalm with }⟩
  exact ⟨hpool, hv.pools, hv.current, by rw [hv.out, hv.acquired], by rw [hv.acquired]⟩

theorem handBack_leaves {number : Nat} (conn : Connection) (hpool : w.current = some number) :
    ∃ faults, pending faults = pending w.faults ∧ (run (handBack conn) w).2
      = { w with
        pools := w.pools.modify number fun pool =>
          { pool with handedBack := pool.handedBack ++ [conn] }
        out := w.out.erase conn
        faults } := by
  refine ⟨_, pending_release w.faults, ?_⟩
  simp only [handBack, requirePool, Act.run_bind, Act.run_look, hpool, Act.run_pure,
    Act.run_change, changePool, pass, Act.run_of]
  cases (nextFault .release w.faults).1 <;> rfl

theorem Taken.release {ε : Type} {number : Nat} (h : Taken number w v) (hv : SamePools v v') :
    ∃ w', run (release ⟨w.acquired, number⟩ : Act ε Unit) v' = (.ok (), w')
      ∧ Returned w w' ∧ Unstruck v' w' := by
  have hcurrent : v'.current = w.current := hv.current.trans h.current
  obtain ⟨log, hrun⟩ := release_logged (ε := ε) ⟨w.acquired, number⟩ v'
  obtain ⟨faults, hfaults, hback⟩ := handBack_leaves ⟨w.acquired, number⟩ (hcurrent.trans h.home)
  rw [hback] at hrun
  refine ⟨_, hrun, ⟨hcurrent, ?_, .inr ⟨number, h.home, ?_, ?_⟩⟩, .of_eq hfaults.symm, rfl⟩
  · have hout := (List.perm_append_singleton ⟨w.acquired, number⟩ w.out).erase ⟨w.acquired, number⟩
    rw [List.erase_cons_head] at hout
    rwa [hv.out, h.out]
  · exact hv.acquired.trans h.acquired
  · rw [hv.pools, h.pools]

-- -----------------------------------------------------------------------------
-- Operations
-- -----------------------------------------------------------------------------

/-- An operation reports outages: it ends with an error of one kind exactly if the store was out of
order. Whatever happens, its connection is handed back. -/
def Reports {ε α : Type} (texts : List RawText) (down : ε → Prop) (act : Act ε α) (w : World) :
    Prop :=
  Triple act w (fun _ w' => Returned w w' ∧ ¬Outage texts w w')
    (fun e w' => Returned w w' ∧ (down e ↔ Outage texts w w'))

/-- What is done over a connection of the pool in use ends as it ends by itself, unless a fault keeps
the connection from being taken. Either way the connection is handed back. -/
theorem withConnection_ends {α : Type} {body : Act StoreError α} {number : Nat}
    {Q : α → World → World → Prop} {E : StoreError → World → World → Prop}
    (hpool : w.current = some number)
    (hbody : ∀ v, Triple body v (fun a v' => SamePools v v' ∧ Q a v v')
      (fun e v' => SamePools v v' ∧ E e v v')) :
    Triple (withConnection body) w
      (fun a w' => Returned w w' ∧ ∃ v v', Unstruck w v ∧ Q a v v' ∧ Unstruck v' w')
      (fun e w' => Returned w w'
        ∧ (Struck e w w' ∨ ∃ v v', Unstruck w v ∧ E e v v' ∧ Unstruck v' w')) := by
  refine Triple.bind (Triple.mono_error (acquire_taken hpool) ?_) ?_
  · rintro e w' ⟨hsame, hstruck⟩
    exact ⟨hsame.returned, .inl hstruck⟩
  · rintro _ v ⟨rfl, htaken, hcalm⟩
    -- The body may end either way; the connection is released in both cases.
    rcases hrun : run body v with ⟨e | a, v'⟩
    · obtain ⟨hsame, hfailed⟩ := Triple.error (hbody v) hrun
      obtain ⟨w', hrelease, hreturned, hback⟩ := htaken.release (ε := StoreError) hsame
      refine Triple.of_run_error (e := e) ?_ ⟨hreturned, .inr ⟨v, v', hcalm, hfailed, hback⟩⟩
      simp only [Act.run_bind, Act.run_attempt, hrun, hrelease, Act.run_ofExcept]
    · obtain ⟨hsame, hdone⟩ := Triple.ok (hbody v) hrun
      obtain ⟨w', hrelease, hreturned, hback⟩ := htaken.release (ε := StoreError) hsame
      refine Triple.of_run (a := a) ?_ ⟨hreturned, v, v', hcalm, hdone, hback⟩
      simp only [Act.run_bind, Act.run_attempt, hrun, hrelease, Act.run_ofExcept]

theorem withConnection_reports {α : Type} {body : Act StoreError α}
    (hbody : ∀ v, Endures texts body v) :
    Reports texts (·.family = .outage) (withConnection body) w := by
  cases hpool : w.current with
  | none =>
    have hclosed : run (withConnection body) w = (.error .poolNotOpen, w) := by
      simp only [withConnection, acquire, requirePool, Act.run_bind, Act.run_look, hpool,
        Act.run_fail]
    have hcalm : Unstruck w w := .refl _
    refine Triple.of_run_error hclosed ⟨SamePools.returned ⟨rfl, rfl, rfl, rfl⟩, ?_⟩
    exact iff_of_false (by decide) (hcalm.not_outage (.inr hpool))
  | some number =>
    have hopen : w.current ≠ none := by simp [hpool]
    have hends := withConnection_ends (E := Cause texts)
      (Q := fun _ v v' => Unstruck v v' ∧ texts.forM checkStorable = .ok ()) hpool
      fun v => Triple.mono (hbody v) (fun _ _ h => ⟨h.1.1, h.1.2, h.2⟩) fun _ _ h => h
    refine Triple.mono hends ?_ ?_
    · rintro a w' ⟨hreturned, v, v', hcalm, ⟨hcalm', htexts⟩, hback⟩
      exact ⟨hreturned, Unstruck.not_outage ((hcalm.trans hcalm').trans hback) (.inl htexts)⟩
    · rintro e w' ⟨hreturned, hstruck | ⟨v, v', hcalm, hcause, hback⟩⟩
      · exact ⟨hreturned, hstruck.outage_iff.symm⟩
      · exact ⟨hreturned, ((hcause.of_unstruck hcalm).then_unstruck hback).outage_iff hopen⟩

theorem withConnection_struck {α : Type} {body : Act StoreError α} {number : Nat}
    (hpool : w.current = some number)
    (hbody : ∀ v, Triple body v (fun _ v' => SamePools v v' ∧ Unstruck v v')
      (fun e v' => SamePools v v' ∧ Struck e v v')) :
    Triple (withConnection body) w (fun _ w' => Returned w w' ∧ Unstruck w w')
      (fun e w' => Returned w w' ∧ Struck e w w') := by
  refine Triple.mono (withConnection_ends (Q := fun _ => Unstruck) (E := Struck) hpool hbody) ?_ ?_
  · rintro a w' ⟨hreturned, v, v', hcalm, hcalm', hback⟩
    exact ⟨hreturned, (hcalm.trans hcalm').trans hback⟩
  · rintro e w' ⟨hreturned, hstruck | ⟨v, v', hcalm, hstruck, hback⟩⟩
    · exact ⟨hreturned, hstruck⟩
    · exact ⟨hreturned, (hcalm.struck hstruck).then_unstruck hback⟩

/-- Nothing that the store could notice has happened between the two worlds. -/
structure Unnoticed (w w' : World) : Prop extends SamePools w w' where
  faults : w'.faults = w.faults
  runtime : w'.runtime = w.runtime

theorem Unnoticed.refl (w : World) : Unnoticed w w :=
  ⟨⟨rfl, rfl, rfl, rfl⟩, rfl, rfl⟩

theorem Unnoticed.trans (h : Unnoticed w v) (h' : Unnoticed v w') : Unnoticed w w' :=
  ⟨h.toSamePools.trans h'.toSamePools, h'.faults.trans h.faults, h'.runtime.trans h.runtime⟩

theorem Unnoticed.outage_iff (h : Unnoticed w v) : Outage texts v w' ↔ Outage texts w w' :=
  outage_congr h.faults h.current h.runtime rfl rfl

theorem Unnoticed.outage_iff_after (h : Unnoticed v w') : Outage texts w w' ↔ Outage texts w v :=
  outage_congr rfl rfl rfl h.faults h.runtime

section
variable {ε ε' α β : Type} {act : Act ε α} {down : ε → Prop} {down' : ε' → Prop} {f : α → Act ε β}

/-- The store does not notice an operation, and takes no part in its failing. -/
def Aside (down : ε → Prop) (act : Act ε α) (w : World) : Prop :=
  Triple act w (fun _ w' => Unnoticed w w') (fun e w' => Unnoticed w w' ∧ ¬down e)

theorem Aside.pure (a : α) : Aside down (Pure.pure a) w :=
  Triple.pure (.refl w)

theorem Aside.fail {e : ε} (h : ¬down e) : Aside down (Act.fail e : Act ε α) w :=
  Triple.fail ⟨.refl w, h⟩

theorem Aside.look (g : World → α) : Aside down (Act.look g) w :=
  Triple.look (.refl w)

theorem Aside.note (level : Log.Level) (message : String) :
    Aside down (Act.note level message) w :=
  Triple.of_run rfl ⟨⟨rfl, rfl, rfl, rfl⟩, rfl, rfl⟩

theorem Aside.ofExcept {result : Except ε α} (h : ∀ e, result = .error e → ¬down e) :
    Aside down (Act.ofExcept result) w :=
  Triple.ofExcept (fun _ _ => .refl w) fun e herror => ⟨.refl w, h e herror⟩

theorem Aside.bind (h : Aside down act w) (hf : ∀ a v, Aside down (f a) v) :
    Aside down (act >>= f) w := by
  refine Triple.bind h fun a v hv => Triple.mono (hf a v) ?_ ?_
  · exact fun b w' h' => hv.trans h'
  · exact fun e w' h' => ⟨hv.trans h'.1, h'.2⟩

namespace Reports

theorem returned (h : Reports texts down act w) : Returned w (run act w).2 :=
  Triple.world (Triple.mono h (fun _ _ h => h.1) fun _ _ h => h.1)

theorem result_iff {e : ε} (h : Reports texts (· = e) act w) :
    (run act w).1 = .error e ↔ Outage texts w (run act w).2 := by
  rcases hrun : run act w with ⟨e' | a, w'⟩
  · exact Except.error.injEq e' e ▸ (Triple.error h hrun).2
  · exact iff_of_false (by simp) (Triple.ok h hrun).2

theorem of_aside (h : Aside down act w) : Reports [] down act w := by
  have hcalm {w' : World} (h' : Unnoticed w w') : ¬Outage [] w w' := by
    refine Unstruck.not_outage ⟨.of_eq ?_, h'.runtime⟩ (.inl rfl)
    rw [h'.faults]
  refine Triple.mono h ?_ ?_
  · intro _ w' h'
    exact ⟨h'.toSamePools.returned, hcalm h'⟩
  · rintro e w' ⟨h', hdown⟩
    exact ⟨h'.toSamePools.returned, iff_of_false hdown (hcalm h')⟩

theorem after {a : α} (hrun : run act w = (.ok a, v)) (hv : Unnoticed w v)
    (h : Reports texts down (f a) v) : Reports texts down (act >>= f) w := by
  refine Triple.bind (Q := fun b v' => b = a ∧ v' = v) (.of_run hrun ⟨rfl, rfl⟩) ?_
  rintro _ _ ⟨rfl, rfl⟩
  refine Triple.mono h ?_ ?_
  · rintro b w' ⟨hreturned, hcalm⟩
    exact ⟨hv.toSamePools.then_returned hreturned, (not_congr hv.outage_iff).mp hcalm⟩
  · rintro e w' ⟨hreturned, hdown⟩
    exact ⟨hv.toSamePools.then_returned hreturned, hdown.trans hv.outage_iff⟩

theorem bind (h : Reports texts down act w) (hf : ∀ a v, Aside down (f a) v) :
    Reports texts down (act >>= f) w := by
  refine Triple.bind h ?_
  rintro a v ⟨hv, hcalm⟩
  refine Triple.mono (hf a v) ?_ ?_
  · intro b w' h'
    exact ⟨hv.then_same h'.toSamePools, (not_congr h'.outage_iff_after).mpr hcalm⟩
  · rintro e w' ⟨h', hdown⟩
    exact ⟨hv.then_same h'.toSamePools, iff_of_false hdown ((not_congr h'.outage_iff_after).mpr hcalm)⟩

theorem map (g : α → β) (h : Reports texts down act w) : Reports texts down (g <$> act) w := by
  rw [map_eq_pure_bind]
  exact h.bind fun a _ => .pure (g a)

theorem mapError {g : ε → ε'} (h : Reports texts down act w) (hg : ∀ e, down' (g e) ↔ down e) :
    Reports texts down' (act.mapError g) w := by
  refine Triple.mapError h ?_
  rintro e w' ⟨hreturned, hdown⟩
  exact ⟨hreturned, (hg e).trans hdown⟩

theorem handle {onError : ε → Act ε' α} (h : Reports texts down act w)
    (herror : ∀ e v, Triple (onError e) v (fun _ w' => Unnoticed v w' ∧ ¬down e)
      (fun e' w' => Unnoticed v w' ∧ (down' e' ↔ down e))) :
    Reports texts down' (act.handle onError) w := by
  refine Triple.handle (Triple.mono_error h fun _ _ h => h) ?_
  rintro e v ⟨hv, hdown⟩
  refine Triple.mono (herror e v) ?_ ?_
  · rintro a w' ⟨h', hnot⟩
    exact ⟨hv.then_same h'.toSamePools, (not_congr h'.outage_iff_after).mpr ((not_congr hdown).mp hnot)⟩
  · rintro e' w' ⟨h', hiff⟩
    exact ⟨hv.then_same h'.toSamePools, hiff.trans (hdown.trans h'.outage_iff_after.symm)⟩

end Reports
end
end OnAir.Store
