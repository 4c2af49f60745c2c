import OnAir.World

/-!
# How operations end

An operation that ends with a result got through each of its parts. Read from the end to the
beginning, each lemma turns the success of a compound into the successes of what it is made of.

An operation is idle at a time if its end and its log lines depend on nothing but the time: it looks
at no tables and at no faults, and whatever the world is like otherwise, that is how it stays.
-/

namespace OnAir.Act

variable {ε ε' α β : Type} {w w' : World}

theorem run_eq {act : Act ε α} {a : α} (h : (run act w).1 = .ok a) :
    run act w = (.ok a, (run act w).2) := by
  rw [← h]

theorem bind_ok {act : Act ε α} {f : α → Act ε β} {b : β} :
    run (act >>= f) w = (.ok b, w') ↔ ∃ a v, run act w = (.ok a, v) ∧ run (f a) v = (.ok b, w') := by
  rw [run_bind]
  rcases run act w with ⟨_ | _, _⟩ <;> simp [and_assoc]

theorem pure_ok {a b : α} : run (pure a : Act ε α) w = (.ok b, w') ↔ a = b ∧ w = w' := by
  simp

theorem ofExcept_ok {result : Except ε α} {a : α} :
    run (ofExcept result) w = (.ok a, w') ↔ result = .ok a ∧ w = w' := by
  simp

theorem look_ok {f : World → α} {a : α} :
    run (look f : Act ε α) w = (.ok a, w') ↔ f w = a ∧ w = w' := by
  simp

theorem now_ok {t : Instant} :
    run (now : Act ε Instant) w = (.ok t, w') ↔ w.clock = t ∧ w = w' := by
  simp

theorem note_ok {level : Log.Level} {message : String} {u : Unit} :
    run (note level message : Act ε Unit) w = (.ok u, w')
      ↔ { w with log := w.log ++ [⟨level, message⟩] } = w' := by
  simp

theorem change_ok {f : World → World} {u : Unit} :
    run (change f : Act ε Unit) w = (.ok u, w') ↔ f w = w' := by
  simp

@[simp] theorem fail_ok {e : ε} {a : α} : run (fail e : Act ε α) w = (.ok a, w') ↔ False := by
  simp

theorem handle_ok {act : Act ε α} {onError : ε → Act ε' α} {a : α} :
    run (handle act onError) w = (.ok a, w')
      ↔ run act w = (.ok a, w') ∨ ∃ e v, run act w = (.error e, v)
          ∧ run (onError e) v = (.ok a, w') := by
  rw [run_handle]
  rcases run act w with ⟨_ | _, _⟩ <;> simp [and_assoc]

theorem run_forM_ofExcept (f : α → Except ε Unit) (items : List α) (w : World) :
    run (items.forM fun a => ofExcept (f a)) w = (items.forM f, w) := by
  induction items with
  | nil => rfl
  | cons a rest ih =>
    simp only [List.forM_eq_forM, List.forM_cons, run_bind, run_ofExcept] at ih ⊢
    cases f a with
    | error e => rfl
    | ok u => exact ih

-- -----------------------------------------------------------------------------
-- Operations that only write to the log
-- -----------------------------------------------------------------------------

variable {clock : Instant} {act : Act ε α} {result : Except ε α} {lines more : List Log.Entry}

/-- In every world of this time the operation ends in one way and adds the same lines to the log. -/
def Idle (clock : Instant) (act : Act ε α) (result : Except ε α) (lines : List Log.Entry) : Prop :=
  ∀ ⦃w⦄, w.clock = clock → run act w = (result, { w with log := w.log ++ lines })

namespace Idle

theorem ofExcept (result : Except ε α) : Idle clock (Act.ofExcept result) result [] := by
  intro w _
  rw [run_ofExcept, List.append_nil]

theorem pure (a : α) : Idle clock (Pure.pure a : Act ε α) (.ok a) [] :=
  ofExcept _

theorem fail (e : ε) : Idle clock (Act.fail e : Act ε α) (.error e) [] :=
  ofExcept _

theorem now : Idle clock (Act.now : Act ε Instant) (.ok clock) [] := by
  rintro w rfl
  rw [run_now, List.append_nil]

theorem note (level : Log.Level) (message : String) :
    Idle clock (Act.note level message : Act ε Unit) (.ok ()) [⟨level, message⟩] :=
  fun _ _ => rfl

theorem bind {a : α} {f : α → Act ε β} {after : Except ε β} (h : Idle clock act (.ok a) lines)
    (hf : Idle clock (f a) after more) : Idle clock (act >>= f) after (lines ++ more) := by
  intro w hw
  rw [run_bind, h hw]
  refine (hf (w := { w with log := w.log ++ lines }) hw).trans ?_
  simp only [List.append_assoc]

theorem bind_error {e : ε} (h : Idle clock act (.error e) lines) (f : α → Act ε β) :
    Idle clock (act >>= f) (.error e) lines := by
  intro w hw
  rw [run_bind, h hw]

theorem mapError (f : ε → ε') (h : Idle clock act result lines) :
    Idle clock (Act.mapError f act) (result.mapError f) lines := by
  intro w hw
  rw [run_mapError, h hw]

end Idle

/-- At a time the operation fails, in one way, and only the log tells of it. -/
def Refused (clock : Instant) (act : Act ε α) : Prop :=
  ∃ e lines, Idle clock act (.error e) lines

namespace Refused

theorem bind (h : Refused clock act) (f : α → Act ε β) : Refused clock (act >>= f) := by
  obtain ⟨e, lines, hidle⟩ := h
  exact ⟨e, lines, hidle.bind_error f⟩

theorem bind_ok {a : α} {f : α → Act ε β} (h : Idle clock act (.ok a) lines)
    (hf : Refused clock (f a)) : Refused clock (act >>= f) := by
  obtain ⟨e, more, hidle⟩ := hf
  exact ⟨e, lines ++ more, h.bind hidle⟩

theorem mapError (f : ε → ε') (h : Refused clock act) : Refused clock (Act.mapError f act) := by
  obtain ⟨e, lines, hidle⟩ := h
  exact ⟨f e, lines, hidle.mapError f⟩

theorem fail (e : ε) : Refused clock (Act.fail e : Act ε α) :=
  ⟨e, [], .fail e⟩

end Refused

end OnAir.Act

namespace OnAir

theorem mapError_ok {ε ε' α : Type} {x : Except ε α} {f : ε → ε'} {a : α} :
    x.mapError f = .ok a ↔ x = .ok a := by
  cases x with
  | error e => constructor <;> intro h <;> cases h
  | ok b => constructor <;> intro h <;> cases h <;> rfl

theorem mapError_error {ε ε' α : Type} {x : Except ε α} {f : ε → ε'} {e : ε'} :
    x.mapError f = .error e ↔ ∃ raised, x = .error raised ∧ f raised = e := by
  cases x with
  | error raised =>
    constructor
    · intro h
      cases h
      exact ⟨raised, rfl, rfl⟩
    · rintro ⟨_, h, rfl⟩
      cases h
      rfl
  | ok a =>
    constructor
    · intro h
      cases h
    · rintro ⟨_, h, -⟩
      cases h

theorem exists_of_isOk {ε α : Type} {x : Except ε α} (h : x.isOk = true) : ∃ a, x = .ok a := by
  cases x with
  | error e => cases h
  | ok a => exact ⟨a, rfl⟩

theorem exceptBind_ok {ε α β : Type} {x : Except ε α} {f : α → Except ε β} {b : β} :
    x >>= f = .ok b ↔ ∃ a, x = .ok a ∧ f a = .ok b := by
  cases x <;> simp [bind, Except.bind]

theorem ok_of_mem {ε α : Type} {f : α → Except ε Unit} {items : List α}
    (h : items.forM f = .ok ()) {a : α} (hmem : a ∈ items) : f a = .ok () := by
  induction items with
  | nil => cases hmem
  | cons first rest ih =>
    simp only [List.forM_eq_forM, List.forM_cons] at h ih
    obtain ⟨u, hfirst, hrest⟩ := exceptBind_ok.mp h
    rcases List.mem_cons.mp hmem with rfl | hmem
    · exact hfirst
    · exact ih hrest hmem

theorem forM_mapError {ε ε' α : Type} (f : α → Except ε Unit) (g : ε → ε') (items : List α) :
    (items.forM fun a => (f a).mapError g) = (items.forM f).mapError g := by
  induction items with
  | nil => rfl
  | cons a rest ih =>
    simp only [List.forM_eq_forM, List.forM_cons] at ih ⊢
    rw [ih]
    cases f a <;> rfl

end OnAir
