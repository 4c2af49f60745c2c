import Mathlib
import OnAir.Proofs.Number.Nearest
import OnAir.Time.Calendar
import OnAir.Time.Clock

/-!
# Clock readings in seconds and milliseconds

Up to 2^34 seconds a double still tells microseconds apart from whole seconds: a reading is rounded
by less than a microsecond, and never across a whole second. So the double compares with whole
seconds as the exact reading does.

A reading in milliseconds is rounded twice, once as seconds and once multiplied by a thousand. What
the first rounding takes away is multiplied too, and it must not be enough to make a whole millisecond
look like less. From November 2004 to January 2038 it is not, but barely: seconds are rounded on a
grid of 2^-22 and milliseconds on one of 2^-12, so the error of 1000 · 2^-23 stays below half a unit,
which is 2^-13. Before 2^40 milliseconds the second grid would be finer and keep the error.
-/

namespace OnAir

open Double (Nearest Rounds)

section
variable {x : ℚ} {m : ℕ} {q : ℤ}

theorem Double.natCast_grid (h : q ≤ 0) (n : ℕ) :
    (n : ℚ) = ((n * 2 ^ (-q).toNat : ℕ) : ℚ) * 2 ^ q := by
  have hgrid := grid_point (k := n) h
  rwa [zpow_zero, mul_one, zero_sub] at hgrid

theorem Double.Rounds.le_natCast (h : Rounds x m q) (hq : q ≤ 0) {n : ℕ} (hx : x ≤ n) :
    (m * 2 ^ q : ℚ) ≤ n := by
  rw [natCast_grid hq n] at hx ⊢
  refine mul_le_mul_of_nonneg_right ?_ (unit_pos q).le
  exact_mod_cast h.le_of_le _ hx

theorem Double.Rounds.natCast_le (h : Rounds x m q) (hq : q ≤ 0) {n : ℕ} (hx : n ≤ x) :
    (n : ℚ) ≤ m * 2 ^ q := by
  rw [natCast_grid hq n] at hx ⊢
  refine mul_le_mul_of_nonneg_right ?_ (unit_pos q).le
  exact_mod_cast h.ge_of_ge _ hx

end

namespace Instant

/-- 2^34 seconds. -/
def horizon : ℤ := 17179869184000000

variable {t : ℤ}

theorem seconds_eq (t : ℤ) : seconds t = .ofRat (t / 1000000 : ℚ) := by
  rw [seconds, Rat.mkRat_eq_div]
  rfl

theorem toRat_seconds_nonpos (h : t ≤ 0) : (seconds t).toRat ≤ 0 := by
  rw [seconds_eq]
  refine Double.toRat_ofRat_nonpos (div_nonpos_of_nonpos_of_nonneg ?_ (by norm_num))
  exact_mod_cast h

theorem rounds_seconds (hpos : 0 < t) (h : t < horizon) :
    ∃ m q, Rounds (t / 1000000) m q ∧ q ≤ -19 ∧ (seconds t).toRat = m * 2 ^ q := by
  have hposQ : (0 : ℚ) < t := by exact_mod_cast hpos
  have hlt : (t / 1000000 : ℚ) < 2 ^ ((-19 : ℤ) + 53) := by
    rw [div_lt_iff₀ (by norm_num), show ((-19 : ℤ) + 53) = (34 : ℕ) by rfl, zpow_natCast]
    have : (t : ℚ) < (horizon : ℤ) := by exact_mod_cast h
    refine this.trans_le ?_
    norm_num [horizon]
  rw [seconds_eq]
  exact Double.rounds_below (div_pos hposQ (by norm_num)) (by norm_num) (by norm_num) hlt

theorem rounds_near {x : ℚ} {m : ℕ} {q : ℤ} (h : Rounds x m q) (hq : q ≤ -19) :
    x - 1 / 1000000 < m * 2 ^ q ∧ (m * 2 ^ q : ℚ) < x + 1 / 1000000 := by
  have hunit : (2 : ℚ) ^ q ≤ 1 / 524288 := (Double.unit_le.mpr hq).trans_eq (by norm_num)
  obtain ⟨hlow, hhigh⟩ := abs_le.mp h.near
  constructor <;> linarith

theorem seconds_le_iff (h : t < horizon) (n : ℕ) :
    (seconds t).toRat ≤ n ↔ t ≤ n * 1000000 := by
  rcases le_or_gt t 0 with hneg | hpos
  · have := toRat_seconds_nonpos hneg
    exact ⟨fun _ => by omega, fun _ => this.trans (Nat.cast_nonneg n)⟩
  obtain ⟨m, q, hrounds, hq, hvalue⟩ := rounds_seconds hpos h
  rw [hvalue]
  refine ⟨fun hle => ?_, fun hle => ?_⟩
  · -- past the whole second a reading is a microsecond past it
    by_contra hgt
    have hstep : (n * 1000000 + 1 : ℚ) ≤ t := by exact_mod_cast (by omega : n * 1000000 + 1 ≤ t)
    have hnear := (rounds_near hrounds hq).1
    linarith
  · refine hrounds.le_natCast (by omega) ?_
    rw [div_le_iff₀ (by norm_num)]
    exact_mod_cast hle

theorem le_seconds_iff (hnonneg : 0 ≤ t) (h : t < horizon) (n : ℕ) :
    (n : ℚ) ≤ (seconds t).toRat ↔ n * 1000000 ≤ t := by
  rcases hnonneg.eq_or_lt with rfl | hpos
  · have hzero : (seconds 0).toRat = 0 := by rw [seconds_eq]; simp [Double.ofRat_zero]
    rw [hzero]
    have hcast : (n : ℚ) ≤ 0 ↔ n ≤ 0 := by exact_mod_cast Iff.rfl
    rw [hcast]
    omega
  obtain ⟨m, q, hrounds, hq, hvalue⟩ := rounds_seconds hpos h
  rw [hvalue]
  refine ⟨fun hle => ?_, fun hle => ?_⟩
  · by_contra hgt
    have hstep : (t + 1 : ℚ) ≤ n * 1000000 := by exact_mod_cast (by omega : t + 1 ≤ n * 1000000)
    have hnear := (rounds_near hrounds hq).2
    linarith
  · refine hrounds.natCast_le (by omega) ?_
    rw [le_div_iff₀ (by norm_num)]
    exact_mod_cast hle

-- -----------------------------------------------------------------------------
-- Whole seconds
-- -----------------------------------------------------------------------------

theorem truncate_nonpos {x : Double} (h : x.toRat ≤ 0) : x.truncate ≤ 0 := by
  have hnum : x.toRat.num ≤ 0 := Rat.num_nonpos.mpr h
  have := Int.tdiv_nonneg (Int.neg_nonneg.mpr hnum) (Int.natCast_nonneg x.toRat.den)
  rw [Int.neg_tdiv] at this
  exact Int.neg_nonneg.mp this

theorem truncate_eq_floor {x : Double} (h : 0 ≤ x.toRat) : x.truncate = ⌊x.toRat⌋ := by
  rw [Double.truncate, Int.tdiv_eq_ediv_of_nonneg (Rat.num_nonneg.mpr h),
    Rat.floor_def']

theorem wholeSeconds_nonpos (h : t ≤ 0) : wholeSeconds t ≤ 0 :=
  truncate_nonpos (toRat_seconds_nonpos h)

theorem wholeSeconds_eq (hnonneg : 0 ≤ t) (h : t < horizon) : wholeSeconds t = t / 1000000 := by
  obtain ⟨n, hn⟩ := Int.eq_ofNat_of_zero_le (Int.ediv_nonneg hnonneg (by decide : (0 : ℤ) ≤ 1000000))
  have hlow : (n : ℚ) ≤ (seconds t).toRat := (le_seconds_iff hnonneg h n).mpr (by omega)
  have hhigh : (seconds t).toRat < (n + 1 : ℕ) := by
    rw [← not_le, le_seconds_iff hnonneg h]
    omega
  rw [wholeSeconds, truncate_eq_floor ((Nat.cast_nonneg n).trans hlow), hn, Int.floor_eq_iff]
  push_cast at hhigh ⊢
  exact ⟨hlow, hhigh⟩

theorem wholeSeconds_lt (h : t < horizon) : wholeSeconds t < 17179869184 := by
  rcases le_or_gt t 0 with hneg | hpos
  · have := wholeSeconds_nonpos hneg
    omega
  · rw [wholeSeconds_eq hpos.le h]
    simp only [horizon] at h
    omega

-- -----------------------------------------------------------------------------
-- Milliseconds
-- -----------------------------------------------------------------------------

/-- A reading from the first whole second past 2^40 milliseconds on and before 2^31 seconds. -/
structure Recent (t : ℤ) : Prop where
  from_le : 1099511628000000 ≤ t
  lt_until : t < 2147483648000000

theorem Recent.seconds_lt (h : Recent t) :
    (0 : ℚ) < t / 1000000 ∧ (t / 1000000 : ℚ) < 2 ^ ((-22 : ℤ) + 53) := by
  have hlow : (1099511628000000 : ℚ) ≤ t := by exact_mod_cast h.from_le
  have hhigh : (t : ℚ) < 2147483648000000 := by exact_mod_cast h.lt_until
  constructor
  · linarith
  · norm_num
    linarith

/-- A recent reading, rounded to seconds and multiplied, is off by a thousand halves of the finer
unit. -/
theorem near_seconds (h : Recent t) : |(seconds t).toRat * 1000 - t / 1000| ≤ 125 / 2 ^ 20 := by
  obtain ⟨hpos, hlt⟩ := h.seconds_lt
  obtain ⟨m, q, hrounds, hq, hvalue⟩ :=
    Double.rounds_below hpos (by norm_num) (by norm_num) hlt
  have hunit : (2 : ℚ) ^ q ≤ 1 / 2 ^ 22 := (Double.unit_le.mpr hq).trans_eq (by norm_num)
  obtain ⟨hbelow, habove⟩ := abs_le.mp hrounds.near
  rw [seconds_eq, hvalue, abs_le]
  constructor <;> linarith

theorem Recent.product_lt (h : Recent t) : (2 : ℚ) ^ (40 : ℤ) + 1 ≤ (seconds t).toRat * 1000
    ∧ (seconds t).toRat * 1000 < 2 ^ ((-12 : ℤ) + 53) := by
  have hlow : (1099511628000000 : ℚ) ≤ t := by exact_mod_cast h.from_le
  have hhigh : (t : ℚ) ≤ 2147483647999999 := by exact_mod_cast Int.le_sub_one_of_lt h.lt_until
  obtain ⟨hbelow, habove⟩ := abs_le.mp (near_seconds h)
  constructor
  · norm_num
    linarith
  · norm_num
    linarith

theorem rounds_product (h : Recent t) :
    ∃ m : ℕ, (Double.ofRat ((seconds t).toRat * 1000)).toRat = m / 2 ^ 12
      ∧ |(m / 2 ^ 12 : ℚ) - (seconds t).toRat * 1000| ≤ 1 / 2 ^ 13 := by
  obtain ⟨hlow, hlt⟩ := h.product_lt
  have hpos : 0 < (seconds t).toRat * 1000 := lt_of_lt_of_le (by positivity) hlow
  obtain ⟨m, q, hrounds, hq, hvalue⟩ := Double.rounds_below hpos (by norm_num) (by norm_num) hlt
  have hq' : -12 ≤ q := by
    refine hrounds.le_exponent (le_trans ?_ hlow)
    norm_num
  obtain rfl : q = -12 := le_antisymm hq hq'
  have hgrid : (m * 2 ^ (-12 : ℤ) : ℚ) = m / 2 ^ 12 := by norm_num [div_eq_mul_inv]
  refine ⟨m, hvalue.trans hgrid, ?_⟩
  rw [← hgrid]
  exact hrounds.near.trans_eq (by norm_num)

theorem millis_eq (h : Recent t) : millis t = t / 1000 := by
  obtain ⟨m, hvalue, hnear⟩ := rounds_product h
  have hlow := h.from_le
  obtain ⟨n, hn⟩ := Int.eq_ofNat_of_zero_le (show 0 ≤ t / 1000 by omega)
  have hfrom : (n : ℚ) ≤ t / 1000 := by
    rw [le_div_iff₀ (by norm_num)]
    exact_mod_cast (show (n : ℤ) * 1000 ≤ t by omega)
  have hto : (t / 1000 : ℚ) ≤ n + 999 / 1000 := by
    have : (t : ℚ) ≤ n * 1000 + 999 := by exact_mod_cast (show t ≤ n * 1000 + 999 by omega)
    linarith
  obtain ⟨hbelow, habove⟩ := abs_le.mp (near_seconds h)
  obtain ⟨hbelow', habove'⟩ := abs_le.mp hnear
  -- below a whole millisecond the next multiple is a unit off, and the two errors do not reach so far
  have hwhole : (n : ℚ) ≤ m / 2 ^ 12 := by
    by_contra hlt
    rw [not_le, div_lt_iff₀ (by norm_num)] at hlt
    have hunit : (m : ℚ) + 1 ≤ n * 2 ^ 12 := by
      have : m < n * 2 ^ 12 := by exact_mod_cast hlt
      exact_mod_cast this
    linarith
  have hnext : (m / 2 ^ 12 : ℚ) < n + 1 := by linarith
  rw [millis, truncate_eq_floor (hvalue ▸ by positivity), hvalue, hn, Int.floor_eq_iff]
  exact ⟨by exact_mod_cast hwhole, by exact_mod_cast hnext⟩

theorem nearest_millis (h : Recent t) :
    Nearest (t / 1000000) (seconds t)
      ∧ Nearest ((seconds t).toRat * 1000) (.ofRat ((seconds t).toRat * 1000)) := by
  have hsmall (b : ℤ) (hb : b ≤ 900) {x : ℚ} (hx : x < 2 ^ (b + 53)) : x < 2 ^ (1023 : ℤ) :=
    hx.trans (Double.unit_lt.mpr (by omega))
  obtain ⟨hpos, hlt⟩ := h.seconds_lt
  obtain ⟨hlow, hlt'⟩ := h.product_lt
  refine ⟨?_, Double.nearest_ofRat (lt_of_lt_of_le (by positivity) hlow) (hsmall _ (by norm_num) hlt')⟩
  rw [seconds_eq]
  exact Double.nearest_ofRat hpos (hsmall _ (by norm_num) hlt)

theorem millis_mono {s : Instant} (hs : Recent s) (ht : Recent t) (h : s ≤ t) :
    millis s ≤ millis t := by
  rw [millis_eq hs, millis_eq ht]
  exact Int.ediv_le_ediv (by decide) h

end Instant

theorem Calendar.check_ok {seconds : ℕ} (h : seconds < 17179869184) :
    check seconds = .ok () := by
  have hyear : (ofSeconds seconds).year ≤ 9999 := by
    simp only [ofSeconds, Int.fdiv_eq_ediv_of_nonneg _ (show (0 : ℤ) ≤ 86400 by decide),
      Int.fdiv_eq_ediv_of_nonneg _ (show (0 : ℤ) ≤ 146097 by decide)]
    have hdays : (seconds : ℤ) / 86400 ≤ 198842 := by omega
    generalize hera : ((seconds : ℤ) / 86400 + 719468) / 146097 = era
    have hera' : era ≤ 6 := by omega
    have hday : (((seconds : ℤ) / 86400 + 719468).fmod 146097).toNat < 146097 := by
      have := Int.fmod_lt_of_pos ((seconds : ℤ) / 86400 + 719468)
        (show (0 : ℤ) < 146097 by decide)
      omega
    generalize (((seconds : ℤ) / 86400 + 719468).fmod 146097).toNat = day at hday
    omega
  rw [check, if_neg (show ¬Nat.pow 2 63 ≤ seconds by simp only [Double.natPow_eq]; omega),
    if_neg (show ¬yearLimit ≤ seconds by simp only [yearLimit]; omega), if_neg (by omega)]

end OnAir
