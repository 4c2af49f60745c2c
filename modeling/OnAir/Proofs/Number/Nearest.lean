import OnAir.Proofs.Number.Rounding

/-!
# The nearest double

Finite doubles have one spelling each: a mantissa of 53 bits, or of fewer at the least exponent. Of
all of them the one that a positive number is rounded to is nearest to it, and where another one is
as near its mantissa is even. Numbers that overflow are left out.
-/

namespace OnAir.Double

inductive Proper : Double → Prop
  | mk {negative : Bool} {m : ℕ} {q : ℤ} (hmantissa : m < 2 ^ 53) (hleast : -1074 ≤ q)
    (hmost : q ≤ 971) (hfull : q = -1074 ∨ 2 ^ 52 ≤ m) : Proper (.finite negative m q)

def mantissa : Double → ℕ
  | .finite _ m _ => m
  | _ => 0

/-- A double is nearest to a number, and even where another one is as near. -/
structure Nearest (x : ℚ) (d : Double) : Prop where
  proper : d.Proper
  near : ∀ other, Proper other → |d.toRat - x| ≤ |other.toRat - x|
  even : ∀ other, Proper other → other.toRat ≠ d.toRat → |d.toRat - x| = |other.toRat - x| →
    Even d.mantissa

-- -----------------------------------------------------------------------------
-- Ties
-- -----------------------------------------------------------------------------

section
variable {num den : ℕ}

theorem even_roundDiv (htie : 2 * (num % den) = den) :
    Even (roundDiv num den) := by
  have hmore : ¬2 * (num % den) < den := by omega
  rw [roundDiv, if_neg hmore, if_pos htie, Nat.even_iff]
  split <;> omega

theorem tie_of_roundDiv (hden : 0 < den)
    (h : |2 * (roundDiv num den * den : ℤ) - 2 * num| = den) : 2 * (num % den) = den := by
  have hdiv : (den * (num / den : ℕ) + (num % den : ℕ) : ℤ) = num := by
    exact_mod_cast Nat.div_add_mod num den
  have hmod := Nat.mod_lt num hden
  have hcases := roundDiv_cases num den
  generalize num / den = k, num % den = r at hdiv hmod hcases
  rcases hcases with ⟨he, hr⟩ | ⟨he, hr⟩
  · have hrest : 2 * (roundDiv num den * den : ℤ) - 2 * num = -(2 * r) := by
      rw [he]
      linarith
    rw [hrest, abs_neg, abs_of_nonneg (by positivity)] at h
    exact_mod_cast h
  · have hrest : 2 * (roundDiv num den * den : ℤ) - 2 * num = 2 * den - 2 * r := by
      rw [he]
      push_cast
      linarith
    rw [hrest] at h
    rcases abs_cases (2 * den - 2 * r : ℤ) with ⟨habs, -⟩ | ⟨habs, -⟩ <;> omega

theorem even_of_tie (hden : 0 < den) {q : ℤ} {m : ℕ}
    (hm : m = roundDiv (scaled num den q).1 (scaled num den q).2)
    (h : |m * 2 ^ q - (num / den : ℚ)| = 2 ^ q / 2) : Even m := by
  have hscaled := scaled_pos num hden q
  have hfraction := scaled_eq num den q
  rw [hm]
  refine even_roundDiv (tie_of_roundDiv hscaled ?_)
  rw [← hm]
  generalize (scaled num den q).1 = n at hfraction
  generalize (scaled num den q).2 = d at hscaled hfraction
  have hpos : (0 : ℚ) < d := by exact_mod_cast hscaled
  have hunits : |(m : ℚ) - n / d| = 1 / 2 := by
    rw [← div_mul_cancel₀ (num / den : ℚ) (unit_pos q).ne', ← hfraction, ← sub_mul, abs_mul,
      abs_of_pos (unit_pos q)] at h
    exact mul_right_cancel₀ (unit_pos q).ne' (h.trans (by ring))
  have hwhole : |2 * (m * d : ℚ) - 2 * n| = d := by
    have hfactor : (2 * (m * d) - 2 * n : ℚ) = (m - n / d) * (2 * d) := by field_simp
    rw [hfactor, abs_mul, hunits, abs_of_pos (by positivity)]
    ring
  exact_mod_cast hwhole

end

-- -----------------------------------------------------------------------------
-- Other doubles
-- -----------------------------------------------------------------------------

section
variable {x : ℚ} {m : ℕ} {q : ℤ} {d : Double}

/-- Two points of a grid are a unit apart at least, so no other point is nearer than one within half a
unit. -/
theorem half_le_of_grid (h : |m * 2 ^ q - x| ≤ 2 ^ q / 2) {k : ℤ} (hne : k ≠ m) :
    2 ^ q / 2 ≤ |k * 2 ^ q - x| := by
  have hunit := unit_pos q
  have hapart : (2 : ℚ) ^ q ≤ |(k * 2 ^ q - m * 2 ^ q : ℚ)| := by
    have hone : (1 : ℚ) ≤ |(k : ℚ) - m| := by exact_mod_cast Int.one_le_abs (sub_ne_zero.mpr hne)
    rw [← sub_mul, abs_mul, abs_of_pos hunit]
    exact le_mul_of_one_le_left hunit.le hone
  have htriangle := abs_sub_le (k * 2 ^ q : ℚ) x (m * 2 ^ q)
  rw [abs_sub_comm x] at htriangle
  linarith

/-- A double is a point of the grid of a number, or it lies below a point of the grid that the number
has reached. -/
theorem Proper.grid (h : Proper d) (hfinest : q = -1074 ∨ (2 : ℚ) ^ (q + 52) ≤ x) :
    (∃ k : ℤ, d.toRat = k * 2 ^ q) ∨ ∃ k : ℤ, d.toRat < k * 2 ^ q ∧ (k * 2 ^ q : ℚ) ≤ x := by
  obtain @⟨negative, m, q', hmantissa, hleast, -, -⟩ := h
  rcases le_or_gt q q' with hq | hq
  · refine .inl ⟨(if negative then -1 else 1) * (m * 2 ^ (q' - q).toNat : ℕ), ?_⟩
    rw [toRat_finite, grid_point hq]
    cases negative <;> simp
  · have htop : (((2 ^ 52 : ℤ) : ℚ) * 2 ^ q) = 2 ^ (q + 52) := by
      rw [add_comm, unit_add]
      push_cast
      rfl
    refine .inr ⟨2 ^ 52, ?_, htop ▸ hfinest.resolve_left (by omega)⟩
    have hmagnitude : 0 ≤ (m * 2 ^ q' : ℚ) := mul_nonneg (Nat.cast_nonneg m) (unit_pos q').le
    have hbelow : (m * 2 ^ q' : ℚ) < 2 ^ (q + 52) := by
      calc (m * 2 ^ q' : ℚ) < 2 ^ (53 : ℤ) * 2 ^ q' := by
            refine mul_lt_mul_of_pos_right ?_ (unit_pos q')
            exact_mod_cast hmantissa
        _ = 2 ^ (53 + q') := (unit_add _ _).symm
        _ ≤ 2 ^ (q + 52) := unit_le.mpr (by omega)
    rw [htop, toRat_finite]
    split
    · linarith
    · exact hbelow

theorem Rounds.half_le (h : Rounds x m q) (hd : Proper d) (hne : d.toRat ≠ m * 2 ^ q) :
    2 ^ q / 2 ≤ |d.toRat - x| ∨ |m * 2 ^ q - x| < |d.toRat - x| := by
  rcases hd.grid h.finest with ⟨k, hk⟩ | ⟨k, hbelow, hreached⟩
  · have hkm : k ≠ m := by
      rintro rfl
      exact hne (by rw [hk, Int.cast_natCast])
    exact .inl (hk ▸ half_le_of_grid h.near hkm)
  · have hfarther : |k * 2 ^ q - x| < |d.toRat - x| := by
      rw [abs_sub_comm, abs_of_nonneg (sub_nonneg.mpr hreached), abs_sub_comm,
        abs_of_nonneg (by linarith)]
      linarith
    rcases eq_or_ne k m with rfl | hkm
    · rw [Int.cast_natCast] at hfarther
      exact .inr hfarther
    · exact .inl ((half_le_of_grid h.near hkm).trans hfarther.le)

end

-- -----------------------------------------------------------------------------
-- Rounding
-- -----------------------------------------------------------------------------

section
variable {num den : ℕ} (hnum : 0 < num) (hden : 0 < den)
  (hsmall : (num / den : ℚ) < 2 ^ (1023 : ℤ))
include hnum hden hsmall

/-- The double of a fraction is proper. A mantissa that has grown to 2^53 is halved, and it is even as
the half is. -/
theorem proper_ofFraction {m : ℕ} {q : ℤ} (hq : q = exponentOf num den)
    (hm : m = roundDiv (scaled num den q).1 (scaled num den q).2) :
    (ofFraction false num den).Proper ∧ (Even m → Even (ofFraction false num den).mantissa) := by
  have hrounds : Rounds (num / den) m q := hm ▸ rounds_scaled hnum hden hq
  have hmost := exponentOf_small hnum hden hsmall
  have hleast := hrounds.least
  simp only [ofFraction, if_neg hnum.ne', ← hq, ← hm]
  split
  next h =>
    rw [if_neg (by simp only; omega)]
    have hhalf : Nat.pow 2 52 < 2 ^ 53 := by decide
    exact ⟨.mk hhalf (by simp only; omega) (by simp only; omega) (.inr le_rfl),
      fun _ => ⟨2 ^ 51, rfl⟩⟩
  next h =>
    rw [if_neg (by simp only; omega)]
    exact ⟨.mk (lt_of_le_of_ne hrounds.mantissa h) hleast (by simp only; omega) hrounds.full, id⟩

theorem nearest_ofFraction : Nearest (num / den) (ofFraction false num den) := by
  obtain ⟨q, hq⟩ : ∃ q, q = exponentOf num den := ⟨_, rfl⟩
  obtain ⟨m, hm⟩ : ∃ m, m = roundDiv (scaled num den q).1 (scaled num den q).2 := ⟨_, rfl⟩
  have hrounds : Rounds (num / den) m q := hm ▸ rounds_scaled hnum hden hq
  have hvalue : (ofFraction false num den).toRat = m * 2 ^ q :=
    toRat_ofFraction hnum (exponentOf_small hnum hden hsmall) false hq hm
  obtain ⟨hproper, heven⟩ := proper_ofFraction hnum hden hsmall hq hm
  refine ⟨hproper, fun other hother => ?_, fun other hother hne htie => heven ?_⟩
  · rcases eq_or_ne other.toRat (ofFraction false num den).toRat with heq | hne
    · rw [heq]
    · rw [hvalue] at hne ⊢
      exact (hrounds.half_le hother hne).elim hrounds.near.trans le_of_lt
  · rw [hvalue] at hne htie
    refine even_of_tie hden hm (le_antisymm hrounds.near ?_)
    rcases hrounds.half_le hother hne with hhalf | hfarther
    · exact hhalf.trans_eq htie.symm
    · exact absurd htie hfarther.ne

end

/-- A positive number that does not overflow is rounded to the nearest double, and to the even one
of two. -/
theorem nearest_ofRat {x : ℚ} (hpos : 0 < x) (hsmall : x < 2 ^ (1023 : ℤ)) :
    Nearest x (ofRat x) := by
  have hnum : 0 < x.num := Rat.num_pos.mpr hpos
  have hx : ((x.num.natAbs : ℕ) : ℚ) / x.den = x := by
    rw [← Int.cast_natCast, Int.natAbs_of_nonneg hnum.le, Rat.num_div_den]
  have hsign : decide (x.num < 0) = false := by simpa using hnum.le
  have hnearest : Nearest ((x.num.natAbs : ℕ) / x.den) (ofFraction false x.num.natAbs x.den) :=
    nearest_ofFraction (by omega) x.den_pos (by rwa [hx])
  rwa [hx, ← hsign] at hnearest

end OnAir.Double
