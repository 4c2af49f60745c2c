import OnAir.Text.Order

/-!
# Sorting by a text

The order of texts is that of strings, and what is sorted by a text that tells its items apart is in
strictly rising order.
-/

namespace OnAir.Text

theorem notAfter_iff (a b : List Char) : notAfter a b = true ↔ ¬b < a := by
  induction a generalizing b with
  | nil => simp [notAfter]
  | cons c a ih =>
    cases b with
    | nil => simp [notAfter]
    | cons d b =>
      have hchar : d < c ↔ d.toNat < c.toNat := Iff.rfl
      have heq : c = d ↔ c.toNat = d.toNat := Char.toNat_inj.symm
      simp only [notAfter, List.cons_lt_cons_iff, Bool.or_eq_true, Bool.and_eq_true,
        decide_eq_true_eq, beq_iff_eq, ih, hchar]
      rw [@eq_comm _ d c, heq]
      by_cases h : c.toNat = d.toNat
      · simp [h]
      · simp only [h, false_and, or_false]
        omega

variable {α : Type} {key : α → String} {items : List α}

theorem mem_sortBy {x : α} : x ∈ sortBy key items ↔ x ∈ items :=
  List.mem_mergeSort

theorem sortBy_strict (h : (items.map key).Nodup) :
    (sortBy key items).Pairwise fun a b => key a < key b := by
  have hle (a b : α) : notAfter (key a).toList (key b).toList = true ↔ key a ≤ key b := by
    rw [notAfter_iff, ← String.not_lt]
    rfl
  have hsorted : (sortBy key items).Pairwise fun a b => key a ≤ key b := by
    refine (List.pairwise_mergeSort ?_ ?_ items).imp fun h => (hle _ _).mp h
    · intro a b c hab hbc
      exact (hle a c).mpr (String.le_trans ((hle a b).mp hab) ((hle b c).mp hbc))
    · intro a b
      rw [Bool.or_eq_true, hle, hle]
      exact String.le_total _ _
  have hdistinct : (sortBy key items).Pairwise fun a b => key a ≠ key b := by
    have hperm : ((sortBy key items).map key).Nodup :=
      ((List.mergeSort_perm items _).map key).nodup_iff.mpr h
    exact List.pairwise_map.mp hperm
  refine hsorted.imp₂ (fun a b hab hne => ?_) hdistinct
  by_cases hlt : key a < key b
  · exact hlt
  · exact absurd (String.le_antisymm hab (String.not_lt.mp hlt)) hne

end OnAir.Text
