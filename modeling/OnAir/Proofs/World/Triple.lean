import OnAir.Proofs.World.Alike

/-!
# What holds at the end of an operation

A triple says of an operation started in some world what holds if it ends with a result, and what
holds if it ends with an error. Unlike a statement about success alone it is also kept by what
handles errors, so it can be read for an operation that may fail anywhere.
-/

namespace OnAir.Act

variable {ε ε' α β : Type} {w w' : World} {act : Act ε α} {Q Q' : α → World → Prop}
  {E E₁ : ε → World → Prop} {E' : ε' → World → Prop}

/-- The operation ends with a result of which `Q` holds, or with an error of which `E` holds. -/
def Triple (act : Act ε α) (w : World) (Q : α → World → Prop) (E : ε → World → Prop) : Prop :=
  match run act w with
  | (.ok a, w') => Q a w'
  | (.error e, w') => E e w'

namespace Triple

theorem of_run {a : α} (h : run act w = (.ok a, w')) (hQ : Q a w') : Triple act w Q E := by
  rw [Triple, h]
  exact hQ

theorem of_run_error {e : ε} (h : run act w = (.error e, w')) (hE : E e w') :
    Triple act w Q E := by
  rw [Triple, h]
  exact hE

theorem ok {a : α} (h : Triple act w Q E) (hrun : run act w = (.ok a, w')) : Q a w' := by
  rw [Triple, hrun] at h
  exact h

theorem error {e : ε} (h : Triple act w Q E) (hrun : run act w = (.error e, w')) : E e w' := by
  rw [Triple, hrun] at h
  exact h

theorem mono (h : Triple act w Q E) (hQ : ∀ a w', Q a w' → Q' a w')
    (hE : ∀ e w', E e w' → E₁ e w') : Triple act w Q' E₁ := by
  rcases hrun : run act w with ⟨e | a, w'⟩
  · exact of_run_error hrun (hE e w' (h.error hrun))
  · exact of_run hrun (hQ a w' (h.ok hrun))

theorem mono_error (h : Triple act w Q E) (hE : ∀ e w', E e w' → E₁ e w') : Triple act w Q E₁ :=
  mono h (fun _ _ h => h) hE

theorem pure {a : α} (h : Q a w) : Triple (Pure.pure a : Act ε α) w Q E :=
  h

theorem fail {e : ε} (h : E e w) : Triple (Act.fail e : Act ε α) w Q E :=
  h

theorem ofExcept {result : Except ε α} (hQ : ∀ a, result = .ok a → Q a w)
    (hE : ∀ e, result = .error e → E e w) : Triple (Act.ofExcept result) w Q E := by
  cases result with
  | ok a => exact hQ a rfl
  | error e => exact hE e rfl

theorem look {f : World → α} (h : Q (f w) w) : Triple (Act.look f : Act ε α) w Q E :=
  h

theorem bind {f : α → Act ε β} {Q' : β → World → Prop} (h : Triple act w Q E)
    (hf : ∀ a w', Q a w' → Triple (f a) w' Q' E) : Triple (act >>= f) w Q' E := by
  rw [Triple, run_bind]
  rcases hrun : run act w with ⟨e | a, w'⟩
  · exact h.error hrun
  · exact hf a w' (h.ok hrun)

theorem handle {onError : ε → Act ε' α} (h : Triple act w Q E)
    (herror : ∀ e w', E e w' → Triple (onError e) w' Q E') :
    Triple (Act.handle act onError) w Q E' := by
  rw [Triple, run_handle]
  rcases hrun : run act w with ⟨e | a, w'⟩
  · exact herror e w' (h.error hrun)
  · exact h.ok hrun

theorem mapError {f : ε → ε'} (h : Triple act w Q E) (hE : ∀ e w', E e w' → E' (f e) w') :
    Triple (Act.mapError f act) w Q E' := by
  rw [Triple, run_mapError]
  rcases hrun : run act w with ⟨e | a, w'⟩
  · exact hE e w' (h.error hrun)
  · exact h.ok hrun

theorem of_world {P : World → Prop} (h : P (run act w).2) :
    Triple act w (fun _ w' => P w') (fun _ w' => P w') := by
  rcases hrun : run act w with ⟨e | a, w'⟩ <;> rw [hrun] at h
  · exact of_run_error hrun h
  · exact of_run hrun h

theorem world {P : World → Prop} (h : Triple act w (fun _ w' => P w') (fun _ w' => P w')) :
    P (run act w).2 := by
  rcases hrun : run act w with ⟨e | a, w'⟩
  · exact h.error hrun
  · exact h.ok hrun

end Triple

end OnAir.Act
