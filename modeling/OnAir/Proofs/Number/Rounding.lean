import Mathlib
import OnAir.Number.Double

/-!
# Rounding to doubles

A positive number is rounded on a grid: the multiples of the power of two at which the number has 53
bits before the point. The grid point is the nearest one, so no other point lies between the number
and its double; in particular whole numbers below 2^53 are never crossed. All of this holds for
fractions of any size up to 2^1023; nothing is said about overflow.
-/

namespace OnAir.Double

-- -----------------------------------------------------------------------------
-- Quotients
-- -----------------------------------------------------------------------------

section
variable {num den k : ℕ}

theorem roundDiv_cases (num den : ℕ) :
    roundDiv num den = num / den ∧ 2 * (num % den) ≤ den
      ∨ roundDiv num den = num / den + 1 ∧ den ≤ 2 * (num % den) := by
  simp only [roundDiv]
  split
  · exact .inl ⟨rfl, by omega⟩
  · split
    · split
      · exact .inl ⟨rfl, by omega⟩
      · exact .inr ⟨rfl, by omega⟩
    · exact .inr ⟨rfl, by omega⟩

theorem roundDiv_le (hden : 0 < den) (h : num ≤ k * den) : roundDiv num den ≤ k := by
  have hdiv := Nat.div_add_mod num den
  have hle : num / den ≤ k := Nat.div_le_of_le_mul (by rwa [Nat.mul_comm])
  rcases roundDiv_cases num den with ⟨he, -⟩ | ⟨he, hr⟩
  · rw [he]; exact hle
  · rcases Nat.lt_or_eq_of_le hle with hlt | rfl
    · rw [he]; exact hlt
    · -- a quotient rounded up leaves a remainder, so the bound is not reached
      have : den * (num / den) = num / den * den := Nat.mul_comm ..
      omega

theorem le_roundDiv (hden : 0 < den) (h : k * den ≤ num) : k ≤ roundDiv num den := by
  have hle : k ≤ num / den := (Nat.le_div_iff_mul_le hden).mpr h
  rcases roundDiv_cases num den with ⟨he, -⟩ | ⟨he, -⟩ <;> omega

theorem roundDiv_near (num : ℕ) (hden : 0 < den) :
    2 * num ≤ (2 * roundDiv num den + 1) * den ∧ 2 * roundDiv num den * den ≤ 2 * num + den := by
  have hdiv := Nat.div_add_mod num den
  have hmod := Nat.mod_lt num hden
  have hcases := roundDiv_cases num den
  generalize num / den = q, num % den = r at hdiv hmod hcases
  rcases hcases with ⟨he, hr⟩ | ⟨he, hr⟩ <;> rw [he] <;> constructor <;> nlinarith

end

-- -----------------------------------------------------------------------------
-- Units
-- -----------------------------------------------------------------------------

theorem natPow_eq (b k : ℕ) : Nat.pow b k = b ^ k := rfl

theorem unit_pos (q : ℤ) : (0 : ℚ) < 2 ^ q :=
  zpow_pos (by norm_num) q

theorem unit_natCast (k : ℕ) : (2 : ℚ) ^ (k : ℤ) = (2 ^ k : ℕ) := by
  rw [zpow_natCast]
  push_cast
  rfl

theorem unit_toNat {q : ℤ} (h : 0 ≤ q) : ((Nat.pow 2 q.toNat : ℕ) : ℚ) = 2 ^ q := by
  rw [natPow_eq, ← unit_natCast, Int.toNat_of_nonneg h]

theorem unit_neg_toNat {q : ℤ} (h : q < 0) : ((Nat.pow 2 (-q).toNat : ℕ) : ℚ) = (2 ^ q)⁻¹ := by
  rw [unit_toNat (by omega), zpow_neg]

theorem unit_lt {a b : ℤ} : (2 : ℚ) ^ a < 2 ^ b ↔ a < b :=
  zpow_lt_zpow_iff_right₀ (by norm_num)

theorem unit_le {a b : ℤ} : (2 : ℚ) ^ a ≤ 2 ^ b ↔ a ≤ b :=
  zpow_le_zpow_iff_right₀ (by norm_num)

theorem unit_add (a b : ℤ) : (2 : ℚ) ^ (a + b) = 2 ^ a * 2 ^ b :=
  zpow_add₀ (by norm_num) a b

theorem toRat_finite (negative : Bool) (m : ℕ) (q : ℤ) :
    (finite negative m q).toRat = if negative then -(m * 2 ^ q : ℚ) else m * 2 ^ q := by
  have hmagnitude : (if 0 ≤ q then ((m * Nat.pow 2 q.toNat : ℕ) : ℚ)
      else mkRat m (Nat.pow 2 (-q).toNat)) = m * 2 ^ q := by
    split
    next h => rw [Nat.cast_mul, unit_toNat h]
    next h =>
      rw [Rat.mkRat_eq_div, Int.cast_natCast, unit_neg_toNat (by omega), div_inv_eq_mul]
  simp only [toRat, hmagnitude]

section
variable {num den : ℕ}

theorem scaled_pos (num : ℕ) (hden : 0 < den) (q : ℤ) : 0 < (scaled num den q).2 := by
  unfold scaled
  split
  · exact Nat.mul_pos hden (Nat.pow_pos (by decide))
  · exact hden

theorem scaled_eq (num den : ℕ) (q : ℤ) :
    ((scaled num den q).1 : ℚ) / (scaled num den q).2 = num / den / 2 ^ q := by
  unfold scaled
  split
  next h =>
    push_cast [unit_toNat h]
    rw [div_div]
  next h =>
    push_cast [unit_neg_toNat (show q < 0 by omega)]
    rw [mul_div_right_comm, div_eq_mul_inv _ ((2 : ℚ) ^ q)]

/-- Comparing a scaled fraction with a whole number compares the fraction with a grid point. -/
theorem scaled_le_iff (hden : 0 < den) (q : ℤ) (k : ℕ) :
    (scaled num den q).1 ≤ k * (scaled num den q).2 ↔ (num / den : ℚ) ≤ k * 2 ^ q := by
  have hpos : (0 : ℚ) < (scaled num den q).2 := by exact_mod_cast scaled_pos num hden q
  rw [← div_le_iff₀ (unit_pos q), ← scaled_eq, div_le_iff₀ hpos]
  exact_mod_cast Iff.rfl

@[inherit_doc scaled_le_iff]
theorem le_scaled_iff (hden : 0 < den) (q : ℤ) (k : ℕ) :
    k * (scaled num den q).2 ≤ (scaled num den q).1 ↔ (k * 2 ^ q : ℚ) ≤ num / den := by
  have hpos : (0 : ℚ) < (scaled num den q).2 := by exact_mod_cast scaled_pos num hden q
  rw [← le_div_iff₀ (unit_pos q), ← scaled_eq, le_div_iff₀ hpos]
  exact_mod_cast Iff.rfl

-- -----------------------------------------------------------------------------
-- Exponents
-- -----------------------------------------------------------------------------

theorem log2_bounds {n : ℕ} (h : 0 < n) :
    (2 : ℚ) ^ (n.log2 : ℤ) ≤ n ∧ (n : ℚ) < 2 ^ ((n.log2 : ℤ) + 1) := by
  refine ⟨?_, ?_⟩
  · rw [unit_natCast]
    exact_mod_cast Nat.log2_self_le h.ne'
  · rw [← Nat.cast_succ, unit_natCast]
    exact_mod_cast Nat.lt_log2_self

theorem quotient_bounds (hnum : 0 < num) (hden : 0 < den) :
    (2 : ℚ) ^ ((num.log2 : ℤ) - den.log2 - 1) < num / den
      ∧ (num / den : ℚ) < 2 ^ ((num.log2 : ℤ) - den.log2 + 1) := by
  obtain ⟨hn, hn'⟩ := log2_bounds hnum
  obtain ⟨hd, hd'⟩ := log2_bounds hden
  have hpos : (0 : ℚ) < den := by exact_mod_cast hden
  refine ⟨?_, ?_⟩
  · rw [lt_div_iff₀ hpos]
    calc (2 : ℚ) ^ ((num.log2 : ℤ) - den.log2 - 1) * den
        < 2 ^ ((num.log2 : ℤ) - den.log2 - 1) * 2 ^ ((den.log2 : ℤ) + 1) :=
          mul_lt_mul_of_pos_left hd' (unit_pos _)
      _ = 2 ^ (num.log2 : ℤ) := by rw [← unit_add]; congr 1; ring
      _ ≤ num := hn
  · rw [div_lt_iff₀ hpos]
    calc (num : ℚ) < 2 ^ ((num.log2 : ℤ) + 1) := hn'
      _ = 2 ^ ((num.log2 : ℤ) - den.log2 + 1) * 2 ^ (den.log2 : ℤ) := by
          rw [← unit_add]; congr 1; ring
      _ ≤ 2 ^ ((num.log2 : ℤ) - den.log2 + 1) * den :=
          mul_le_mul_of_nonneg_left hd (unit_pos _).le

/-- In units of its last place a number has 53 bits, or fewer if the unit is the least there is. -/
theorem exponentOf_spec (hnum : 0 < num) (hden : 0 < den) :
    -1074 ≤ exponentOf num den ∧ (num / den : ℚ) < 2 ^ (exponentOf num den + 53)
      ∧ (exponentOf num den = -1074 ∨ (2 : ℚ) ^ (exponentOf num den + 52) ≤ num / den) := by
  obtain ⟨hlow, hhigh⟩ := quotient_bounds hnum hden
  -- the guess is off by one where the quotient has one bit less than the lengths suggest
  suffices hguess : ∃ e : ℤ, exponentOf num den = max (-1074) e
      ∧ (num / den : ℚ) < 2 ^ (e + 53) ∧ (2 : ℚ) ^ (e + 52) ≤ num / den by
    obtain ⟨e, he, hlt, hle⟩ := hguess
    refine ⟨by omega, lt_of_lt_of_le hlt (unit_le.mpr (by omega)), ?_⟩
    rcases le_total e (-1074) with h | h
    · exact .inl (by omega)
    · rw [he, max_eq_right h]
      exact .inr hle
  have hpow : (2 : ℚ) ^ (52 : ℤ) = (Nat.pow 2 52 : ℕ) := by
    rw [natPow_eq, ← unit_natCast]
    rfl
  obtain ⟨g, hg⟩ : ∃ g : ℤ, g = (num.log2 : ℤ) - den.log2 - 52 := ⟨_, rfl⟩
  have hexponent : exponentOf num den = max (-1074)
      (if (scaled num den g).1 < Nat.pow 2 52 * (scaled num den g).2 then g - 1 else g) := by
    rw [hg]
    rfl
  refine ⟨_, hexponent, ?_⟩
  split
  next h =>
    rw [← not_le, le_scaled_iff hden, not_le, ← hpow, ← unit_add] at h
    refine ⟨by rwa [show g - 1 + 53 = 52 + g by ring], ?_⟩
    rw [show g - 1 + 52 = (num.log2 : ℤ) - den.log2 - 1 by omega]
    exact hlow.le
  next h =>
    rw [not_lt, le_scaled_iff hden, ← hpow, ← unit_add] at h
    refine ⟨?_, by rwa [add_comm]⟩
    rwa [show g + 53 = (num.log2 : ℤ) - den.log2 + 1 by omega]

end

-- -----------------------------------------------------------------------------
-- The nearest double
-- -----------------------------------------------------------------------------

/-- `m · 2^q` is the double nearest to `x`: no point of its grid lies between them, and the grid is
as fine as 53 bits allow. -/
structure Rounds (x : ℚ) (m : ℕ) (q : ℤ) : Prop where
  mantissa : m ≤ 2 ^ 53
  least : -1074 ≤ q
  finest : q = -1074 ∨ (2 : ℚ) ^ (q + 52) ≤ x
  le_of_le : ∀ k : ℕ, x ≤ k * 2 ^ q → m ≤ k
  ge_of_ge : ∀ k : ℕ, k * 2 ^ q ≤ x → k ≤ m
  near : |m * 2 ^ q - x| ≤ 2 ^ q / 2

theorem roundDiv_scaled_near {num den : ℕ} (hden : 0 < den) (q : ℤ) :
    |(roundDiv (scaled num den q).1 (scaled num den q).2 : ℚ) * 2 ^ q - num / den|
      ≤ 2 ^ q / 2 := by
  have hscaled := scaled_pos num hden q
  set m := roundDiv (scaled num den q).1 (scaled num den q).2 with hm
  obtain ⟨hup, hdown⟩ := roundDiv_near (scaled num den q).1 hscaled
  rw [← hm] at hup hdown
  have hpos : (0 : ℚ) < (scaled num den q).2 := by exact_mod_cast hscaled
  have hup' : 2 * ((scaled num den q).1 / (scaled num den q).2 : ℚ) ≤ 2 * m + 1 := by
    rw [← mul_div_assoc, div_le_iff₀ hpos]
    exact_mod_cast hup
  have hdown' : (2 * m : ℚ) ≤ 2 * ((scaled num den q).1 / (scaled num den q).2 : ℚ) + 1 := by
    rw [← mul_div_assoc, div_add_one hpos.ne', le_div_iff₀ hpos]
    exact_mod_cast hdown
  rw [scaled_eq] at hup' hdown'
  have hx : (num / den : ℚ) = num / den / 2 ^ q * 2 ^ q := by
    rw [div_mul_cancel₀ _ (unit_pos q).ne']
  rw [hx, ← sub_mul, abs_mul, abs_of_pos (unit_pos q), mul_comm, div_eq_mul_inv _ (2 : ℚ)]
  refine mul_le_mul_of_nonneg_left ?_ (unit_pos q).le
  rw [abs_le]
  constructor <;> linarith

/-- The value of a double that does not overflow. A mantissa of 2^53 is spelled as half of it at
twice the unit. -/
theorem toRat_ofFraction {num den : ℕ} (hnum : 0 < num)
    (hsmall : exponentOf num den + 52 < 1023) (negative : Bool) {m : ℕ} {q : ℤ}
    (hq : q = exponentOf num den)
    (hm : m = roundDiv (scaled num den q).1 (scaled num den q).2) :
    (ofFraction negative num den).toRat = if negative then -(m * 2 ^ q : ℚ) else m * 2 ^ q := by
  simp only [ofFraction, if_neg hnum.ne', ← hq, ← hm]
  split
  next h =>
    rw [if_neg (by omega), toRat_finite]
    have hmag : ((Nat.pow 2 52 : ℕ) : ℚ) * 2 ^ (q + 1) = m * 2 ^ q := by
      rw [h, natPow_eq, natPow_eq, unit_add]
      push_cast
      ring
    rw [hmag]
  next h => rw [if_neg (by omega), toRat_finite]

section
variable {num den : ℕ}

theorem rounds_scaled (hnum : 0 < num) (hden : 0 < den) {q : ℤ} (hq : q = exponentOf num den) :
    Rounds (num / den) (roundDiv (scaled num den q).1 (scaled num den q).2) q := by
  obtain ⟨hleast, hlt, hfinest⟩ := exponentOf_spec hnum hden
  rw [← hq] at hleast hlt hfinest
  have hscaled := scaled_pos num hden q
  refine ⟨?_, hleast, hfinest, ?_, ?_, roundDiv_scaled_near hden q⟩
  · refine roundDiv_le hscaled ((scaled_le_iff hden q _).mpr ?_)
    rw [← unit_natCast, ← unit_add]
    exact (lt_of_lt_of_eq hlt (by rw [add_comm]; rfl)).le
  · exact fun k hk => roundDiv_le hscaled ((scaled_le_iff hden q k).mpr hk)
  · exact fun k hk => le_roundDiv hscaled ((le_scaled_iff hden q k).mpr hk)

theorem exponentOf_small (hnum : 0 < num) (hden : 0 < den)
    (hsmall : (num / den : ℚ) < 2 ^ (1023 : ℤ)) : exponentOf num den + 52 < 1023 := by
  obtain ⟨-, -, hfinest⟩ := exponentOf_spec hnum hden
  rcases hfinest with h | h
  · omega
  · exact unit_lt.mp (lt_of_le_of_lt h hsmall)

theorem rounds_ofFraction (hnum : 0 < num) (hden : 0 < den)
    (hsmall : (num / den : ℚ) < 2 ^ (1023 : ℤ)) (negative : Bool) :
    ∃ m q, Rounds (num / den) m q ∧ (ofFraction negative num den).toRat
      = if negative then -(m * 2 ^ q : ℚ) else m * 2 ^ q :=
  ⟨_, _, rounds_scaled hnum hden rfl,
    toRat_ofFraction hnum (exponentOf_small hnum hden hsmall) negative rfl rfl⟩

end

theorem rounds_ofRat {x : ℚ} (hpos : 0 < x) (hsmall : x < 2 ^ (1023 : ℤ)) :
    ∃ m q, Rounds x m q ∧ (ofRat x).toRat = m * 2 ^ q := by
  have hnum : 0 < x.num := Rat.num_pos.mpr hpos
  have hx : ((x.num.natAbs : ℕ) : ℚ) / x.den = x := by
    rw [← Int.cast_natCast, Int.natAbs_of_nonneg hnum.le, Rat.num_div_den]
  have hsign : decide (x.num < 0) = false := by simpa using hnum.le
  have hnat : 0 < x.num.natAbs := by omega
  obtain ⟨m, q, hrounds, hvalue⟩ := rounds_ofFraction hnat x.den_pos (by rwa [hx]) false
  rw [hx] at hrounds
  refine ⟨m, q, hrounds, ?_⟩
  rw [ofRat, hsign, hvalue]
  rfl

theorem toRat_ofFraction_nonpos (num den : ℕ) : (ofFraction true num den).toRat ≤ 0 := by
  simp only [ofFraction]
  split
  · simp [toRat_finite]
  · split <;> split <;>
      first
      | exact le_refl _
      | (rw [toRat_finite, if_pos rfl, neg_nonpos]
         exact mul_nonneg (Nat.cast_nonneg _) (unit_pos _).le)

theorem toRat_ofRat_nonpos {x : ℚ} (h : x ≤ 0) : (ofRat x).toRat ≤ 0 := by
  rcases h.lt_or_eq with h | rfl
  · have hsign : decide (x.num < 0) = true := decide_eq_true (Rat.num_neg.mpr h)
    rw [ofRat, hsign]
    exact toRat_ofFraction_nonpos _ _
  · simp [ofRat, ofFraction, toRat_finite]

theorem toRat_ofFraction_nonneg (num den : ℕ) : 0 ≤ (ofFraction false num den).toRat := by
  simp only [ofFraction]
  split
  · simp [toRat_finite]
  · split <;> split <;>
      first
      | exact le_refl _
      | (rw [toRat_finite, if_neg (by decide)]
         exact mul_nonneg (Nat.cast_nonneg _) (unit_pos _).le)

theorem toRat_ofRat_nonneg {x : ℚ} (h : 0 ≤ x) : 0 ≤ (ofRat x).toRat := by
  have hsign : decide (x.num < 0) = false := decide_eq_false (not_lt.mpr (Rat.num_nonneg.mpr h))
  rw [ofRat, hsign]
  exact toRat_ofFraction_nonneg _ _

theorem ofRat_zero : (ofRat 0).toRat = 0 := by
  simp [ofRat, ofFraction, toRat_finite]

section
variable {x : ℚ} {m : ℕ} {q : ℤ}

theorem Rounds.exponent_le (h : Rounds x m q) {b : ℤ} (hb : -1074 ≤ b) (hx : x < 2 ^ (b + 53)) :
    q ≤ b := by
  rcases h.finest with he | he
  · omega
  · have := unit_lt.mp (lt_of_le_of_lt he hx)
    omega

theorem Rounds.le_exponent (h : Rounds x m q) {b : ℤ} (hx : (2 : ℚ) ^ (b + 52) + 2 ^ b ≤ x) :
    b ≤ q := by
  by_contra hlt
  have hvalue : (m * 2 ^ q : ℚ) ≤ 2 ^ (b + 52) := by
    calc (m * 2 ^ q : ℚ) ≤ 2 ^ (53 : ℤ) * 2 ^ q := by
          refine mul_le_mul_of_nonneg_right ?_ (unit_pos q).le
          exact_mod_cast h.mantissa
      _ = 2 ^ (53 + q) := (unit_add _ _).symm
      _ ≤ 2 ^ (b + 52) := unit_le.mpr (by omega)
  have hunit : (2 : ℚ) ^ q < 2 ^ b := unit_lt.mpr (by omega)
  have hnear := (abs_le.mp h.near).1
  linarith [unit_pos q]

theorem Rounds.full (h : Rounds x m q) : q = -1074 ∨ 2 ^ 52 ≤ m := by
  refine h.finest.imp_right fun hx => h.ge_of_ge _ (le_trans (le_of_eq ?_) hx)
  rw [add_comm, unit_add]
  push_cast
  rfl

/-- A positive number is rounded on a grid at least as fine as a power of two above which it has no
more than 53 bits. -/
theorem rounds_below (hpos : 0 < x) {b : ℤ} (hb : -1074 ≤ b) (hb' : b ≤ 900)
    (hx : x < 2 ^ (b + 53)) : ∃ m q, Rounds x m q ∧ q ≤ b ∧ (ofRat x).toRat = m * 2 ^ q := by
  obtain ⟨m, q, hrounds, hvalue⟩ := rounds_ofRat hpos (hx.trans (unit_lt.mpr (by omega)))
  exact ⟨m, q, hrounds, hrounds.exponent_le hb hx, hvalue⟩

theorem Rounds.large (h : Rounds x m q) (hq : 0 < q) : (2 ^ 53 : ℚ) ≤ m * 2 ^ q ∧ 2 ^ q ≤ x := by
  have hx : (2 : ℚ) ^ (q + 52) ≤ x := h.finest.resolve_left (by omega)
  have hm : 2 ^ 52 ≤ m := h.full.resolve_left (by omega)
  refine ⟨?_, (unit_le.mpr (by omega)).trans hx⟩
  have hm' : (2 ^ 52 : ℚ) ≤ m := by exact_mod_cast hm
  have hunit : (2 : ℚ) ≤ 2 ^ q := by
    calc (2 : ℚ) = 2 ^ (1 : ℤ) := by norm_num
      _ ≤ 2 ^ q := unit_le.mpr (by omega)
  calc (2 ^ 53 : ℚ) = 2 ^ 52 * 2 := by norm_num
    _ ≤ m * 2 ^ q := mul_le_mul hm' hunit (by norm_num) (Nat.cast_nonneg m)

theorem grid_point {k : ℕ} {e : ℤ} (h : q ≤ e) :
    (k * 2 ^ e : ℚ) = ((k * 2 ^ (e - q).toNat : ℕ) : ℚ) * 2 ^ q := by
  push_cast
  rw [mul_assoc, ← zpow_natCast, Int.toNat_of_nonneg (by omega), ← unit_add, sub_add_cancel]

theorem Rounds.eq_of_grid (h : Rounds x m q) {k : ℕ} {e : ℤ} (he : q ≤ e)
    (hx : x = k * 2 ^ e) : (m * 2 ^ q : ℚ) = x := by
  rw [grid_point he] at hx
  have hm : m = k * 2 ^ (e - q).toNat :=
    le_antisymm (h.le_of_le _ hx.le) (h.ge_of_ge _ hx.ge)
  rw [hx, hm]

end

theorem ofRat_exact {k : ℕ} {e : ℤ} (hk : k ≤ 2 ^ 53) (he : -1074 ≤ e) (he' : e ≤ 900) :
    (ofRat (k * 2 ^ e)).toRat = k * 2 ^ e := by
  rcases Nat.eq_zero_or_pos k with rfl | hpos
  · simp [ofRat_zero]
  have hposQ : (0 : ℚ) < k := by exact_mod_cast hpos
  have hle : (k * 2 ^ e : ℚ) ≤ 2 ^ (e + 53) := by
    rw [add_comm, unit_add]
    refine mul_le_mul_of_nonneg_right ?_ (unit_pos e).le
    exact_mod_cast hk
  obtain ⟨m, q, hrounds, hvalue⟩ := rounds_ofRat (mul_pos hposQ (unit_pos e))
    (lt_of_le_of_lt hle (unit_lt.mpr (by omega)))
  rw [hvalue]
  rcases hk.lt_or_eq with hk | rfl
  · refine hrounds.eq_of_grid (hrounds.exponent_le he ?_) rfl
    rw [add_comm, unit_add]
    refine mul_lt_mul_of_pos_right ?_ (unit_pos e)
    exact_mod_cast hk
  · -- 2^53 units are 2^52 units of twice the size
    have hx : ((2 ^ 53 : ℕ) * 2 ^ e : ℚ) = (2 ^ 52 : ℕ) * 2 ^ (e + 1) := by
      rw [unit_add]
      push_cast
      ring
    refine hrounds.eq_of_grid (hrounds.exponent_le (b := e + 1) (by omega) ?_) hx
    exact lt_of_le_of_lt hle (unit_lt.mpr (by omega))

end OnAir.Double
