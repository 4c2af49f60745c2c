import Mathlib
import OnAir.Proofs.Seal.Expiry

/-!
# Lifetimes by the clock

Far beyond the horizon a reading of the clock no longer tells one microsecond from the next, but the
reading is all that a sealer sees: a token is good as long as the clock reads no more than its
lifetime after the second at which it was signed, whatever the year.
-/

namespace OnAir

open Double (Rounds)
open Instant (horizon seconds)

-- -----------------------------------------------------------------------------
-- Readings
-- -----------------------------------------------------------------------------

theorem Calendar.lt_of_check {seconds : ℕ} (h : check seconds = .ok ()) : seconds < 2 ^ 50 := by
  rw [check] at h
  split at h
  · cases h
  split at h
  · cases h
  dsimp only at h
  split at h
  · cases h
  next hyear =>
    simp only [ofSeconds, Int.fdiv_eq_ediv_of_nonneg _ (show (0 : ℤ) ≤ 86400 by decide),
      Int.fdiv_eq_ediv_of_nonneg _ (show (0 : ℤ) ≤ 146097 by decide)] at hyear
    generalize (((seconds : ℤ) / 86400 + 719468).fmod 146097).toNat = day at hyear
    have hera : ((seconds : ℤ) / 86400 + 719468) / 146097 ≤ 24 := by omega
    omega

namespace Instant

variable {t : Instant}

/-- The first instant of which nothing is said here; doubles go on beyond it. -/
def utmost : Instant := 2 ^ 200

/-- An instant that can be stamped on a token: a date, not before 1970, of which the second that is
read is a date as well. The last microseconds of the year 9999 are read as the year after. -/
structure Stampable (t : Instant) : Prop where
  nonneg : 0 ≤ t
  le_latest : t ≤ latest
  dated : Calendar.check t.wholeSeconds.toNat = .ok ()

theorem stampable_of_lt (hnonneg : 0 ≤ t) (h : t < horizon) : Stampable t where
  nonneg := hnonneg
  le_latest := h.le.trans (by decide)
  dated := Calendar.check_ok (by have := wholeSeconds_lt h; omega)

theorem Stampable.wholeSeconds_nonneg (h : Stampable t) : 0 ≤ t.wholeSeconds := by
  have hreading : 0 ≤ (seconds t).toRat := by
    rw [seconds_eq]
    refine Double.toRat_ofRat_nonneg (div_nonneg ?_ (by norm_num))
    exact_mod_cast h.nonneg
  rw [wholeSeconds, truncate_eq_floor hreading]
  exact Int.floor_nonneg.mpr hreading

theorem Stampable.wholeSeconds_lt (h : Stampable t) : t.wholeSeconds < 2 ^ 50 := by
  have := Calendar.lt_of_check h.dated
  omega

theorem Stampable.lt_utmost (h : Stampable t) : t < utmost :=
  h.le_latest.trans_lt (by decide)

def Within (second span : ℤ) (t : Instant) : Prop :=
  (seconds t).toRat ≤ second + span

theorem within_wholeSeconds {start : Instant} {span : ℤ} (hnonneg : 0 ≤ start)
    (hstart : start < horizon) (hspan : 0 ≤ span) (h : t < horizon) :
    Within start.wholeSeconds span t ↔ t ≤ (start / 1000000 + span) * 1000000 := by
  obtain ⟨n, hn⟩ := Int.eq_ofNat_of_zero_le (show 0 ≤ start / 1000000 + span from
    add_nonneg (Int.ediv_nonneg hnonneg (by decide)) hspan)
  rw [Within, wholeSeconds_eq hnonneg hstart, hn]
  have hcast : ((start / 1000000 : ℤ) + span : ℚ) = n := by exact_mod_cast hn
  rw [hcast]
  exact seconds_le_iff h n

/-- No later than a span of seconds after the second of a start. Up to the horizon the microseconds
decide; beyond it the readings do, which no longer tell them apart. -/
def InTime (start : Instant) (span : ℤ) (t : Instant) : Prop :=
  if start < horizon ∧ t < horizon then t ≤ (start / 1000000 + span) * 1000000
  else Within start.wholeSeconds span t

theorem inTime_iff_within {start : Instant} {span : ℤ} (h : 0 ≤ start) (hspan : 0 ≤ span) :
    InTime start span t ↔ Within start.wholeSeconds span t := by
  rw [InTime]
  split
  next hboth => exact (within_wholeSeconds h hboth.1 hspan hboth.2).symm
  next => exact Iff.rfl

theorem rounds_seconds_utmost (hpos : 0 < t) (h : t < utmost) :
    ∃ m q, Rounds (t / 1000000) m q ∧ (seconds t).toRat = m * 2 ^ q
      ∧ (t / 1000000 : ℚ) < 2 ^ 200 := by
  have hposQ : (0 : ℚ) < t := by exact_mod_cast hpos
  have hlt : (t / 1000000 : ℚ) < 2 ^ 200 := by
    have : (t : ℚ) < 2 ^ 200 := by exact_mod_cast h
    exact (div_le_self hposQ.le (by norm_num)).trans_lt this
  have hsmall : (t / 1000000 : ℚ) < 2 ^ (1023 : ℤ) := by
    refine hlt.trans ?_
    rw [← zpow_natCast]
    exact Double.unit_lt.mpr (by norm_num)
  obtain ⟨m, q, hrounds, hvalue⟩ := Double.rounds_ofRat (div_pos hposQ (by norm_num)) hsmall
  exact ⟨m, q, hrounds, by rw [seconds_eq, hvalue], hlt⟩

end Instant

theorem Double.le_ofRat_large {x : ℚ} (h : 2 ^ 52 ≤ x) (hsmall : x < 2 ^ (1023 : ℤ)) :
    2 ^ 52 ≤ (ofRat x).toRat := by
  obtain ⟨m, q, hrounds, hvalue⟩ := rounds_ofRat (lt_of_lt_of_le (by norm_num) h) hsmall
  rw [hvalue]
  rcases le_or_gt q 0 with hq | hq
  · have hle : ((2 ^ 52 : ℕ) : ℚ) ≤ m * 2 ^ q := hrounds.natCast_le hq (by exact_mod_cast h)
    exact_mod_cast hle
  · exact le_trans (by norm_num) (hrounds.large hq).1

-- -----------------------------------------------------------------------------
-- Tokens
-- -----------------------------------------------------------------------------

namespace Seal

open Instant (Stampable Within utmost)

/-- A token has expired when the clock reads more than its lifetime after the second at which it was
signed. -/
theorem isExpired_reading {lifetime : ℤ} {signed : ℕ} {now : ℤ} (hpos : 0 < lifetime)
    (hlifetime : lifetime < 2 ^ 50) (hsigned : signed < 2 ^ 50) (hnow : now < utmost) :
    isExpired lifetime signed now = false ↔ Within signed lifetime now := by
  rw [← Bool.not_eq_true, isExpired, Bool.or_eq_true, decide_eq_true_eq, decide_eq_true_eq,
    or_iff_right (not_le.mpr hpos), not_lt, Within, ← sub_le_iff_le_add', Int.cast_natCast]
  have hlifetimeQ : (lifetime : ℚ) < 2 ^ 50 := by exact_mod_cast hlifetime
  have hsignedQ : (signed : ℚ) < 2 ^ 50 := by exact_mod_cast hsigned
  have hposQ : (0 : ℚ) < lifetime := by exact_mod_cast hpos
  rcases le_or_gt (seconds now).toRat signed with hle | hgt
  · have hage := sub_nonpos.mpr hle
    exact iff_of_true ((Double.toRat_ofRat_nonpos hage).trans hposQ.le) (hage.trans hposQ.le)
  have hnowpos : 0 < now := by
    by_contra hneg
    have := Instant.toRat_seconds_nonpos (not_lt.mp hneg)
    have : (0 : ℚ) ≤ signed := Nat.cast_nonneg signed
    linarith
  obtain ⟨m, q, hrounds, hvalue, hbelow⟩ := Instant.rounds_seconds_utmost hnowpos hnow
  rw [hvalue] at hgt ⊢
  rcases le_or_gt q 0 with hq | hq
  · rw [difference_exact hrounds hq hgt]
  -- beyond 2^53 seconds the age may be rounded, but it is past any lifetime by far
  obtain ⟨hlarge, hunit⟩ := hrounds.large hq
  have hnear := (abs_le.mp hrounds.near).2
  have hsmall : (m * 2 ^ q - signed : ℚ) < 2 ^ (1023 : ℤ) := by
    have hsum : (m * 2 ^ q - signed : ℚ) < 2 ^ 200 * 2 := by
      have : (0 : ℚ) ≤ signed := Nat.cast_nonneg signed
      linarith
    refine hsum.trans ?_
    calc (2 ^ 200 * 2 : ℚ) = 2 ^ (201 : ℤ) := by norm_num
      _ < 2 ^ (1023 : ℤ) := Double.unit_lt.mpr (by norm_num)
  have hage : (2 ^ 52 : ℚ) ≤ m * 2 ^ q - signed := by linarith
  have hrounded := Double.le_ofRat_large hage hsmall
  refine iff_of_false ?_ ?_ <;> linarith

section
variable {sealer : Sealer} {value : Json} {lifetime : ℤ} {purpose token : String} {signed : Instant}
  {now : ℤ}

theorem exists_seal_stampable (sealer : Sealer) (value : Json) (lifetime : ℤ) (purpose : String)
    (hproper : value.isBroken = false) (hdigits : value.digits ≤ Integer.digitLimit)
    (hdepth : value.depth < Json.depthLimit)
    (hlifetime : (Integer.natText lifetime.natAbs).length ≤ Integer.digitLimit)
    (h : Stampable signed) : ∃ token, sealer.seal value lifetime purpose signed = .ok token := by
  have hlt := h.wholeSeconds_lt
  refine ⟨_, seal_eq hdigits hlifetime hdepth hproper h.wholeSeconds_nonneg ?_⟩
  simp only [Double.natPow_eq]
  omega

theorem isExpired_stampable (h : Stampable signed) (hpos : 0 < lifetime)
    (hlifetime : lifetime < 2 ^ 50) (hnow : now < utmost) :
    isExpired lifetime signed.wholeSeconds.toNat now = false
      ↔ Within signed.wholeSeconds lifetime now := by
  have hnonneg := h.wholeSeconds_nonneg
  have hlt := h.wholeSeconds_lt
  rw [isExpired_reading hpos hlifetime (by omega) hnow, Int.toNat_of_nonneg hnonneg]

theorem unseal_within (hexact : value.isExact = true) (h : Stampable signed)
    (hseal : sealer.seal value lifetime purpose signed = .ok token) (hpos : 0 < lifetime)
    (hlifetime : lifetime < 2 ^ 50) (hnow : now < utmost)
    (hwithin : Within signed.wholeSeconds lifetime now) :
    sealer.unseal token purpose now = .ok value := by
  rw [unseal_of_seal_dated hexact h.dated hseal,
    (isExpired_stampable h hpos hlifetime hnow).mpr hwithin]
  rfl

theorem unseal_beyond (hexact : value.isExact = true) (h : Stampable signed)
    (hseal : sealer.seal value lifetime purpose signed = .ok token) (hpos : 0 < lifetime)
    (hlifetime : lifetime < 2 ^ 50) (hnow : now < utmost)
    (hbeyond : ¬Within signed.wholeSeconds lifetime now) :
    sealer.unseal token purpose now = .error .expired := by
  rw [unseal_of_seal_dated hexact h.dated hseal, if_pos]
  rw [← Bool.not_eq_false, isExpired_stampable h hpos hlifetime hnow]
  exact hbeyond

end
end Seal
end OnAir
