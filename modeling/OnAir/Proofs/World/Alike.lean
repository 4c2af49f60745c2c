import OnAir.Proofs.World

/-!
# Operations side by side

A relation between worlds says what two runs may differ in. An operation is alike for it if from
related worlds it ends in both with the same result, and leaves related worlds behind. Whatever is
built from operations that are alike is alike, so the relation is followed through a whole program
without a look at its results. With the relation `w = v ∧ P w` this says that one run keeps `P`.

Two operations end in step if from related worlds both end with results that fit together, or both
with the same error, and leave related worlds behind. They need not return the same, so what one of
them hands to the next may differ as long as the next does not show it.
-/

namespace OnAir.Act

variable {ε ε' α β : Type} {R : World → World → Prop} {act : Act ε α}

-- -----------------------------------------------------------------------------
-- Results of operations
-- -----------------------------------------------------------------------------

theorem ext {other : Act ε α} (h : ∀ w, run act w = run other w) : act = other :=
  funext h

theorem run_map (f : α → β) (act : Act ε α) (w : World) :
    run (f <$> act) w = ((run act w).1.map f, (run act w).2) := by
  rw [map_eq_pure_bind, run_bind]
  rcases run act w with ⟨e | a, w'⟩ <;> rfl

theorem map_handle (f : α → β) (act : Act ε α) (onError : ε → Act ε' α) :
    f <$> handle act onError = handle (f <$> act) fun e => f <$> onError e := by
  refine ext fun w => ?_
  rw [run_map, run_handle, run_handle, run_map]
  rcases run act w with ⟨e | a, w'⟩
  · exact (run_map f (onError e) w').symm
  · rfl

-- -----------------------------------------------------------------------------
-- Operations that are alike
-- -----------------------------------------------------------------------------

/-- Two runs end with one result, in related worlds. -/
structure SameEnd {ρ : Type} (R : World → World → Prop) (x y : ρ × World) : Prop where
  result : x.1 = y.1
  world : R x.2 y.2

/-- From related worlds the operation ends with one result, in related worlds. -/
def Alike (R : World → World → Prop) (act : Act ε α) : Prop :=
  ∀ ⦃w v⦄, R w v → (run act w).1 = (run act v).1 ∧ R (run act w).2 (run act v).2

namespace Alike

theorem pure (a : α) : Alike R (Pure.pure a : Act ε α) :=
  fun _ _ h => ⟨rfl, h⟩

theorem fail (e : ε) : Alike R (Act.fail e : Act ε α) :=
  fun _ _ h => ⟨rfl, h⟩

theorem ofExcept (result : Except ε α) : Alike R (Act.ofExcept result) :=
  fun _ _ h => ⟨rfl, h⟩

theorem look {f : World → α} (hf : ∀ ⦃w v⦄, R w v → f w = f v) :
    Alike R (Act.look f : Act ε α) :=
  fun _ _ h => ⟨congrArg Except.ok (hf h), h⟩

theorem change {f : World → World} (hf : ∀ ⦃w v⦄, R w v → R (f w) (f v)) :
    Alike R (Act.change f : Act ε Unit) :=
  fun _ _ h => ⟨rfl, hf h⟩

/-- An operation that is alike for one world beside itself keeps what the relation says of it. -/
theorem keeps {P : World → Prop} {w : World} (hact : Alike (fun w v => w = v ∧ P w) act)
    (hw : P w) : P (run act w).2 :=
  (hact ⟨rfl, hw⟩).2.2

theorem sameEnd (hact : Alike R act) {w v : World} (h : R w v) :
    SameEnd R (run act w) (run act v) :=
  ⟨(hact h).1, (hact h).2⟩

theorem run_eq (hact : Alike R act) {w v : World} (h : R w v) :
    ∃ result w' v', run act w = (result, w') ∧ run act v = (result, v') ∧ R w' v' := by
  obtain ⟨hresult, hworlds⟩ := hact h
  exact ⟨(run act w).1, _, _, rfl, by rw [hresult], hworlds⟩

/-- What follows an operation in a world needs to be alike for the result that it ends with there. -/
theorem bind_at {f : α → Act ε β} {w v : World} (hact : Alike R act) (h : R w v)
    (hf : ∀ a w', run act w = (.ok a, w') → Alike R (f a)) :
    SameEnd R (run (act >>= f) w) (run (act >>= f) v) := by
  obtain ⟨result, w', v', hw, hv, h'⟩ := hact.run_eq h
  rw [run_bind, run_bind, hw, hv]
  cases result with
  | error e => exact ⟨rfl, h'⟩
  | ok a => exact (hf a w' hw).sameEnd h'

theorem bind_of {f : α → Act ε β} (hact : Alike R act)
    (hf : ∀ a w w', run act w = (.ok a, w') → Alike R (f a)) : Alike R (act >>= f) := by
  intro w v h
  have hend := hact.bind_at h fun a => hf a w
  exact ⟨hend.result, hend.world⟩

theorem bind {f : α → Act ε β} (hact : Alike R act) (hf : ∀ a, Alike R (f a)) :
    Alike R (act >>= f) :=
  hact.bind_of fun a _ _ _ => hf a

theorem map (f : α → β) (hact : Alike R act) : Alike R (f <$> act) := by
  rw [map_eq_pure_bind]
  exact hact.bind fun a => .pure (f a)

theorem handle {onError : ε → Act ε' α} (hact : Alike R act) (herror : ∀ e, Alike R (onError e)) :
    Alike R (Act.handle act onError) := by
  intro w v h
  obtain ⟨result, w', v', hw, hv, h'⟩ := hact.run_eq h
  rw [run_handle, run_handle, hw, hv]
  cases result with
  | error e => exact herror e h'
  | ok a => exact ⟨rfl, h'⟩

theorem attempt (hact : Alike R act) : Alike R (Act.attempt act : Act ε' (Except ε α)) := by
  intro w v h
  obtain ⟨hresult, hworlds⟩ := hact h
  exact ⟨congrArg Except.ok hresult, hworlds⟩

theorem mapError (f : ε → ε') (hact : Alike R act) : Alike R (Act.mapError f act) := by
  intro w v h
  obtain ⟨hresult, hworlds⟩ := hact h
  exact ⟨congrArg (Except.mapError f) hresult, hworlds⟩

theorem ite {p : Prop} [Decidable p] {other : Act ε α} (hact : Alike R act)
    (hother : Alike R other) : Alike R (if p then act else other) := by
  split
  · exact hact
  · exact hother

theorem forM (f : α → Act ε Unit) (hf : ∀ a, Alike R (f a)) (items : List α) :
    Alike R (items.forM f) := by
  induction items with
  | nil => exact .pure ()
  | cons a rest ih => exact (hf a).bind fun _ => ih

end Alike

-- -----------------------------------------------------------------------------
-- Away from the store
-- -----------------------------------------------------------------------------

/-- The relation is blind to what happens away from the store and draws no bytes: both worlds have one
clock, one runtime and one provider, and a log line or a request to the provider keeps them
related. -/
structure Quiet (R : World → World → Prop) : Prop where
  clock : ∀ ⦃w v⦄, R w v → w.clock = v.clock
  runtime : ∀ ⦃w v⦄, R w v → w.runtime = v.runtime
  provider : ∀ ⦃w v⦄, R w v → w.provider = v.provider
  log : ∀ ⦃w v⦄ entry, R w v → R { w with log := w.log ++ [entry] } { v with log := v.log ++ [entry] }
  send : ∀ ⦃w v⦄ request, R w v →
    R { w with sent := w.sent ++ [request] } { v with sent := v.sent ++ [request] }

namespace Quiet

theorem same {P : World → Prop} (hlog : ∀ w log, P w → P { w with log })
    (hsend : ∀ w sent, P w → P { w with sent }) : Quiet (fun w v => w = v ∧ P w) where
  clock _ _ h := congrArg World.clock h.1
  runtime _ _ h := congrArg World.runtime h.1
  provider _ _ h := congrArg World.provider h.1
  log _ _ _ h := ⟨by rw [h.1], hlog _ _ h.2⟩
  send _ _ _ h := ⟨by rw [h.1], hsend _ _ h.2⟩

theorem noting (hR : Quiet R) (lines : List Log.Entry) {w v : World} (h : R w v) :
    R (w.noting lines) (v.noting lines) := by
  induction lines generalizing w v with
  | nil => simpa [World.noting] using h
  | cons line rest ih => simpa [World.noting] using ih (hR.log line h)

theorem enter (hR : Quiet R) (line : Log.Entry) : Alike R (Act.enter line : Act ε Unit) :=
  .change fun _ _ h => hR.log line h

theorem note (hR : Quiet R) (level : Log.Level) (message : String) :
    Alike R (Act.note level message : Act ε Unit) :=
  hR.enter _

theorem now (hR : Quiet R) : Alike R (Act.now : Act ε Instant) :=
  .look hR.clock

end Quiet

/-- The relation is blind to what happens away from the store: both worlds have one clock, one runtime,
one source of random bytes and one provider, and a log line, a draw or a request to the provider
keeps them related. -/
structure Ambient (R : World → World → Prop) : Prop where
  clock : ∀ ⦃w v⦄, R w v → w.clock = v.clock
  runtime : ∀ ⦃w v⦄, R w v → w.runtime = v.runtime
  random : ∀ ⦃w v⦄, R w v → w.random = v.random
  provider : ∀ ⦃w v⦄, R w v → w.provider = v.provider
  log : ∀ ⦃w v⦄ entry, R w v → R { w with log := w.log ++ [entry] } { v with log := v.log ++ [entry] }
  draw : ∀ ⦃w v⦄ source, R w v → R { w with random := source } { v with random := source }
  send : ∀ ⦃w v⦄ request, R w v →
    R { w with sent := w.sent ++ [request] } { v with sent := v.sent ++ [request] }

namespace Ambient

theorem quiet (hR : Ambient R) : Quiet R :=
  ⟨hR.clock, hR.runtime, hR.provider, hR.log, hR.send⟩

theorem same {P : World → Prop} (hlog : ∀ w log, P w → P { w with log })
    (hdraw : ∀ w random, P w → P { w with random }) (hsend : ∀ w sent, P w → P { w with sent }) :
    Ambient (fun w v => w = v ∧ P w) where
  clock _ _ h := congrArg World.clock h.1
  runtime _ _ h := congrArg World.runtime h.1
  random _ _ h := congrArg World.random h.1
  provider _ _ h := congrArg World.provider h.1
  log _ _ _ h := ⟨by rw [h.1], hlog _ _ h.2⟩
  draw _ _ _ h := ⟨by rw [h.1], hdraw _ _ h.2⟩
  send _ _ _ h := ⟨by rw [h.1], hsend _ _ h.2⟩

theorem timeless (clock : Instant) : Ambient (fun w v => w = v ∧ w.clock = clock) :=
  .same (fun _ _ h => h) (fun _ _ h => h) fun _ _ h => h

theorem note (hR : Ambient R) (level : Log.Level) (message : String) :
    Alike R (Act.note level message : Act ε Unit) :=
  hR.quiet.note level message

theorem now (hR : Ambient R) : Alike R (Act.now : Act ε Instant) :=
  hR.quiet.now

theorem bytes (hR : Ambient R) (count : Nat) : Alike R (Act.draw count : Act ε Bytes) := by
  intro w v h
  have hrandom := hR.random h
  refine ⟨?_, ?_⟩
  · simp only [Act.draw, run_of, hrandom]
  · simp only [Act.draw, run_of, hrandom]
    exact hR.draw _ h

end Ambient

-- -----------------------------------------------------------------------------
-- Operations that end in step
-- -----------------------------------------------------------------------------

variable {α' β' : Type} {Q : α → β → Prop} {other : Act ε β}

/-- Both ended with results that fit together, or both with the same error. -/
inductive Agrees (Q : α → β → Prop) : Except ε α → Except ε β → Prop
  | ok {a : α} {b : β} (h : Q a b) : Agrees Q (.ok a) (.ok b)
  | error (e : ε) : Agrees Q (.error e) (.error e)

theorem Agrees.mono {Q' : α → β → Prop} {x : Except ε α} {y : Except ε β} (h : Agrees Q x y)
    (hQ : ∀ a b, Q a b → Q' a b) : Agrees Q' x y := by
  cases h with
  | ok h => exact .ok (hQ _ _ h)
  | error e => exact .error e

theorem Agrees.eq {x y : Except ε α} (h : Agrees Eq x y) : x = y := by
  cases h with
  | ok h => exact congrArg Except.ok h
  | error e => rfl

/-- From related worlds both operations end in agreement, in related worlds. -/
def Paired (R : World → World → Prop) (Q : α → β → Prop) (act : Act ε α) (other : Act ε β) :
    Prop :=
  ∀ ⦃w v⦄, R w v → Agrees Q (run act w).1 (run other v).1 ∧ R (run act w).2 (run other v).2

namespace Paired

theorem of_alike (h : Alike R act) : Paired R Eq act act := by
  intro w v hworlds
  obtain ⟨hresult, hworlds'⟩ := h hworlds
  refine ⟨?_, hworlds'⟩
  rw [hresult]
  cases (run act v).1 with
  | ok a => exact .ok rfl
  | error e => exact .error e

theorem alike {act : Act ε α} (h : Paired R Eq act act) : Alike R act :=
  fun _ _ hworlds => ⟨(h hworlds).1.eq, (h hworlds).2⟩

theorem mono {Q' : α → β → Prop} (h : Paired R Q act other) (hQ : ∀ a b, Q a b → Q' a b) :
    Paired R Q' act other :=
  fun _ _ hworlds => ⟨(h hworlds).1.mono hQ, (h hworlds).2⟩

theorem pure {a : α} {b : β} (h : Q a b) :
    Paired R Q (Pure.pure a : Act ε α) (Pure.pure b : Act ε β) :=
  fun _ _ hworlds => ⟨.ok h, hworlds⟩

theorem fail (e : ε) : Paired R Q (Act.fail e) (Act.fail e) :=
  fun _ _ hworlds => ⟨.error e, hworlds⟩

theorem ofExcept {x : Except ε α} {y : Except ε β} (h : Agrees Q x y) :
    Paired R Q (Act.ofExcept x) (Act.ofExcept y) :=
  fun _ _ hworlds => ⟨h, hworlds⟩

theorem look {f : World → α} {g : World → β} (h : ∀ ⦃w v⦄, R w v → Q (f w) (g v)) :
    Paired R Q (Act.look f : Act ε α) (Act.look g) :=
  fun _ _ hworlds => ⟨.ok (h hworlds), hworlds⟩

theorem change {f g : World → World} (h : ∀ ⦃w v⦄, R w v → R (f w) (g v)) :
    Paired R (fun _ _ => True) (Act.change f : Act ε Unit) (Act.change g) :=
  fun _ _ hworlds => ⟨.ok trivial, h hworlds⟩

theorem bind {Q' : α' → β' → Prop} {f : α → Act ε α'} {g : β → Act ε β'}
    (h : Paired R Q act other) (hf : ∀ a b, Q a b → Paired R Q' (f a) (g b)) :
    Paired R Q' (act >>= f) (other >>= g) := by
  intro w v hworlds
  obtain ⟨hresult, hworlds'⟩ := h hworlds
  rw [run_bind, run_bind]
  generalize run act w = x, run other v = y at hresult hworlds' ⊢
  obtain ⟨x, w'⟩ := x
  obtain ⟨y, v'⟩ := y
  cases hresult with
  | ok hfit => exact hf _ _ hfit hworlds'
  | error e => exact ⟨.error e, hworlds'⟩

theorem handle {onError : ε → Act ε' α} {onError' : ε → Act ε' β} (h : Paired R Q act other)
    (herror : ∀ e, Paired R Q (onError e) (onError' e)) :
    Paired R Q (Act.handle act onError) (Act.handle other onError') := by
  intro w v hworlds
  obtain ⟨hresult, hworlds'⟩ := h hworlds
  rw [run_handle, run_handle]
  generalize run act w = x, run other v = y at hresult hworlds' ⊢
  obtain ⟨x, w'⟩ := x
  obtain ⟨y, v'⟩ := y
  cases hresult with
  | ok hfit => exact ⟨.ok hfit, hworlds'⟩
  | error e => exact herror e hworlds'

theorem attempt (h : Paired R Q act other) :
    Paired R (Agrees Q) (Act.attempt act : Act ε' (Except ε α)) (Act.attempt other) :=
  fun _ _ hworlds => ⟨.ok (h hworlds).1, (h hworlds).2⟩

end Paired
end OnAir.Act
