import OnAir.Text.Cut

/-!
# Cuts undo joins

What stands before a cut at the first delimiter, or after one at the last, is free of it, and a text
put together from such parts is cut where it was joined. Cutting at all delimiters gives the pieces
of both sides of any of them.
-/

namespace OnAir.Text

variable {α : Type}

-- -----------------------------------------------------------------------------
-- Ends
-- -----------------------------------------------------------------------------

theorem dropTail_concat {p : α → Bool} {c : α} (text : List α) (hc : p c = false) :
    dropTail p (text ++ [c]) = text ++ [c] := by
  simp [dropTail, hc]

theorem dropTail_append {p : α → Bool} {last : List α} (text : List α) (hne : last ≠ [])
    (hlast : ∀ c ∈ last, p c = false) : dropTail p (text ++ last) = text ++ last := by
  obtain ⟨front, c, rfl⟩ := List.eq_nil_or_concat last |>.resolve_left hne
  rw [List.concat_eq_append] at hlast ⊢
  rw [← List.append_assoc]
  exact dropTail_concat _ (hlast c (by simp))

/-- What is dropped is all of the class, and what stands in front of it does not end in the class. -/
theorem eq_append_dropTail (p : α → Bool) (text : List α) :
    ∃ tail, text = dropTail p text ++ tail ∧ (∀ c ∈ tail, p c = true)
      ∧ ∀ c ∈ (dropTail p text).getLast?, p c = false := by
  refine ⟨(text.reverse.takeWhile p).reverse, ?_, fun c hc => ?_, fun c hc => ?_⟩
  · rw [dropTail, ← List.reverse_append, List.takeWhile_append_dropWhile, List.reverse_reverse]
  · exact List.all_eq_true.mp List.all_takeWhile c (List.mem_reverse.mp hc)
  · rw [dropTail, List.getLast?_reverse] at hc
    have := List.head?_dropWhile_not p text.reverse
    rw [hc] at this
    simpa using this

variable [DecidableEq α] {sep : α}

-- -----------------------------------------------------------------------------
-- The first delimiter
-- -----------------------------------------------------------------------------

theorem cutFirst?_eq_none {text : List α} (h : sep ∉ text) : cutFirst? sep text = none := by
  induction text with
  | nil => rfl
  | cons c rest ih =>
    rw [List.mem_cons, not_or] at h
    rw [cutFirst?, if_neg (Ne.symm h.1), ih h.2, Option.map_none]

theorem cutFirst?_append {before : List α} (h : sep ∉ before) (after : List α) :
    cutFirst? sep (before ++ sep :: after) = some (before, after) := by
  induction before with
  | nil => simp [cutFirst?]
  | cons c before ih =>
    rw [List.mem_cons, not_or] at h
    rw [List.cons_append, cutFirst?, if_neg (Ne.symm h.1), ih h.2, Option.map_some]

/-- In front of the first delimiter stands what stands in front of it in the first part, or all of
that part. -/
theorem cutFirst?_takeWhile (text after : List α) :
    ∃ rest, cutFirst? sep (text ++ sep :: after)
      = some (text.takeWhile (· ≠ sep), rest ++ after) := by
  induction text with
  | nil => exact ⟨[], by simp [cutFirst?]⟩
  | cons c text ih =>
    obtain ⟨rest, hrest⟩ := ih
    by_cases hc : c = sep
    · exact ⟨text ++ [sep], by simp [cutFirst?, hc]⟩
    · exact ⟨rest, by simp [cutFirst?, hc, hrest]⟩

theorem eq_append_of_cutFirst? {text before after : List α}
    (h : cutFirst? sep text = some (before, after)) : text = before ++ sep :: after := by
  induction text generalizing before with
  | nil => cases h
  | cons c rest ih =>
    rw [cutFirst?] at h
    split at h
    next hc =>
      cases h
      rw [hc, List.nil_append]
    next hc =>
      obtain ⟨⟨front, after⟩, hrest, heq⟩ := Option.map_eq_some_iff.mp h
      cases heq
      rw [ih hrest, List.cons_append]

-- -----------------------------------------------------------------------------
-- The last delimiter
-- -----------------------------------------------------------------------------

theorem cutLast?_eq_none {text : List α} (h : sep ∉ text) :
    cutLast? sep text = none := by
  induction text with
  | nil => rfl
  | cons c rest ih =>
    have hc : c ≠ sep := fun hc => h (hc ▸ List.mem_cons_self)
    have hr := ih fun hm => h (List.mem_cons_of_mem c hm)
    simp [cutLast?, hr, hc]

theorem cutLast?_append_cons (before after : List α) :
    cutLast? sep (before ++ sep :: after) = some (match cutLast? sep after with
      | some (more, last) => (before ++ sep :: more, last)
      | none => (before, after)) := by
  induction before with
  | nil => cases h : cutLast? sep after <;> simp [cutLast?, h]
  | cons c before ih =>
    rw [List.cons_append, cutLast?, ih]
    cases cutLast? sep after <;> rfl

theorem cutLast?_append {after : List α} (before : List α) (h : sep ∉ after) :
    cutLast? sep (before ++ sep :: after) = some (before, after) := by
  rw [cutLast?_append_cons, cutLast?_eq_none h]

theorem eq_append_of_cutLast? {text before after : List α}
    (h : cutLast? sep text = some (before, after)) : text = before ++ sep :: after := by
  induction text generalizing before with
  | nil => cases h
  | cons c rest ih =>
    rw [cutLast?] at h
    split at h
    next hrest =>
      cases h
      rw [ih hrest, List.cons_append]
    next =>
      split at h
      next hc =>
        cases h
        rw [hc, List.nil_append]
      next => cases h

theorem notMem_of_cutLast?_none {text : List α} (h : cutLast? sep text = none) : sep ∉ text := by
  intro hmem
  obtain ⟨before, after, rfl⟩ := List.append_of_mem hmem
  rw [cutLast?_append_cons] at h
  cases h

theorem notMem_of_cutLast? {text before after : List α}
    (h : cutLast? sep text = some (before, after)) : sep ∉ after := by
  rw [eq_append_of_cutLast? h, cutLast?_append_cons] at h
  cases hafter : cutLast? sep after with
  | none => exact notMem_of_cutLast?_none hafter
  | some cut =>
    rw [hafter] at h
    obtain ⟨hbefore, -⟩ := Prod.mk.inj (Option.some.inj h)
    exact absurd hbefore (by simp)

-- -----------------------------------------------------------------------------
-- All delimiters
-- -----------------------------------------------------------------------------

theorem pieces_ne_nil (text : List α) : pieces sep text ≠ [] := by
  cases text with
  | nil => exact List.cons_ne_nil _ _
  | cons c rest =>
    rw [pieces]
    split
    · exact List.cons_ne_nil _ _
    · split <;> exact List.cons_ne_nil _ _

theorem pieces_of_notMem {text : List α} (h : sep ∉ text) : pieces sep text = [text] := by
  induction text with
  | nil => rfl
  | cons c rest ih =>
    rw [List.mem_cons, not_or] at h
    rw [pieces, if_neg (Ne.symm h.1), ih h.2]

theorem pieces_append (before after : List α) :
    pieces sep (before ++ sep :: after) = pieces sep before ++ pieces sep after := by
  induction before with
  | nil => simp [pieces]
  | cons c before ih =>
    simp only [List.cons_append, pieces]
    split
    · rw [ih, List.cons_append]
    · rw [ih]
      cases hpieces : pieces sep before with
      | nil => exact absurd hpieces (pieces_ne_nil before)
      | cons piece more => rfl

theorem getLastD_pieces {last : List α} (before : List α) (h : sep ∉ last) (d : List α) :
    (pieces sep (before ++ sep :: last)).getLastD d = last := by
  rw [pieces_append, pieces_of_notMem h]
  simp

-- -----------------------------------------------------------------------------
-- Fronts and ends
-- -----------------------------------------------------------------------------

theorem eq_append_of_after? {lead text rest : List α} (h : after? lead text = some rest) :
    text = lead ++ rest := by
  induction lead generalizing text with
  | nil =>
    cases h
    rfl
  | cons l lead ih =>
    cases text with
    | nil => cases h
    | cons c text =>
      rw [after?] at h
      split at h
      next hc => rw [hc, ih h, List.cons_append]
      next => cases h

theorem after?_append (lead text : List α) : after? lead (lead ++ text) = some text := by
  induction lead with
  | nil => cases text <;> rfl
  | cons l lead ih => rw [List.cons_append, after?, if_pos rfl, ih]

theorem before?_append (front ending : List α) : before? ending (front ++ ending) = some front := by
  rw [before?, List.reverse_append, after?_append, Option.map_some, List.reverse_reverse]

theorem eq_append_of_before? {ending text front : List α} (h : before? ending text = some front) :
    text = front ++ ending := by
  obtain ⟨rest, hrest, rfl⟩ := Option.map_eq_some_iff.mp h
  have hreverse := congrArg List.reverse (eq_append_of_after? hrest)
  simpa using hreverse

end OnAir.Text
