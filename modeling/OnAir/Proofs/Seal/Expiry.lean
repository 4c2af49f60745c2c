import Mathlib
import OnAir.Proofs.Seal.Token
import OnAir.Proofs.Time.Clock

/-!
# When tokens expire

The age of a token is a difference of doubles, rounded once more. Up to the horizon the difference
loses nothing, so a token expires at the very microsecond that whole numbers would have it expire:
the first one after its lifetime, counted from the whole second at which it was signed.
-/

namespace OnAir.Seal

open Double (Rounds)
open Instant (horizon seconds)

section
variable {lifetime : ℤ} {signed : ℕ} {now : ℤ}

/-- The difference of a reading and a whole second before it is free of rounding, as long as the
unit of the reading is not more than a second. -/
theorem difference_exact {x : ℚ} {m : ℕ} {q : ℤ} (h : Rounds x m q) (hq : q ≤ 0)
    (hsigned : (signed : ℚ) < m * 2 ^ q) :
    (Double.ofRat (m * 2 ^ q - signed)).toRat = m * 2 ^ q - signed := by
  have hgrid := Double.natCast_grid hq signed
  set k := signed * 2 ^ (-q).toNat
  -- both readings lie on one grid, and so does their difference
  have hkm : k ≤ m := by
    rw [hgrid] at hsigned
    exact_mod_cast (lt_of_mul_lt_mul_right hsigned (Double.unit_pos q).le).le
  have hdiff : (m * 2 ^ q - signed : ℚ) = ((m - k : ℕ) : ℚ) * 2 ^ q := by
    rw [hgrid, Nat.cast_sub hkm, sub_mul]
  rw [hdiff]
  exact Double.ofRat_exact ((Nat.sub_le m k).trans h.mantissa) h.least (by omega)

theorem age_exact (h : now < horizon) (hsigned : (signed : ℚ) < (seconds now).toRat) :
    (Double.ofRat ((seconds now).toRat - signed)).toRat = (seconds now).toRat - signed := by
  have hpos : 0 < now := by
    by_contra hneg
    have := Instant.toRat_seconds_nonpos (not_lt.mp hneg)
    have : (0 : ℚ) ≤ signed := Nat.cast_nonneg signed
    linarith
  obtain ⟨m, q, hrounds, hq, hvalue⟩ := Instant.rounds_seconds hpos h
  rw [hvalue] at hsigned ⊢
  exact difference_exact hrounds (by omega) hsigned

theorem isExpired_iff (h : now < horizon) :
    isExpired lifetime signed now = true
      ↔ lifetime ≤ 0 ∨ (signed + lifetime) * 1000000 < now := by
  simp only [isExpired, Bool.or_eq_true, decide_eq_true_eq]
  rcases le_or_gt lifetime 0 with hneg | hpos
  · exact iff_of_true (.inl hneg) (.inl hneg)
  refine or_congr_right ?_
  obtain ⟨n, rfl⟩ := Int.eq_ofNat_of_zero_le hpos.le
  rcases le_or_gt (seconds now).toRat signed with hle | hgt
  · have hage := Double.toRat_ofRat_nonpos (sub_nonpos.mpr hle)
    have hnow := (Instant.seconds_le_iff h signed).mp hle
    refine iff_of_false (not_lt.mpr (hage.trans ?_)) (by omega)
    exact_mod_cast hpos.le
  · rw [age_exact h hgt, lt_sub_iff_add_lt, ← not_le, ← not_le]
    have hcast : (((n : ℤ) : ℚ) + signed : ℚ) = (signed + n : ℕ) := by push_cast; ring
    rw [hcast, Instant.seconds_le_iff h]
    push_cast
    rfl

theorem isExpired_mono {later : ℤ} (hle : now ≤ later) (h : later < horizon)
    (hexpired : isExpired lifetime signed now = true) :
    isExpired lifetime signed later = true := by
  rw [isExpired_iff (hle.trans_lt h)] at hexpired
  rw [isExpired_iff h]
  omega

end

-- -----------------------------------------------------------------------------
-- Sealing and unsealing
-- -----------------------------------------------------------------------------

section
variable {sealer : Sealer} {value : Json} {lifetime : ℤ} {purpose token : String} {signed now : ℤ}

/-- A token sealed at a second that is a date is opened as what was sealed, unless it has expired. -/
theorem unseal_of_seal_dated (hexact : value.isExact = true)
    (hdate : Calendar.check (Instant.wholeSeconds signed).toNat = .ok ())
    (hseal : sealer.seal value lifetime purpose signed = .ok token) (now : ℤ) :
    sealer.unseal token purpose now
      = if isExpired lifetime (Instant.wholeSeconds signed).toNat now then .error .expired
        else .ok value := by
  obtain ⟨-, -, -, -, hlt, -⟩ := seal_ok hseal
  rw [unseal_of_signedText? (signedText?_of_seal_ok hseal)]
  refine openText_signedText (sealable_of_seal_ok hexact hseal) hdate ?_ now
  simp only [Double.natPow_eq] at hlt ⊢
  omega

theorem unseal_of_seal_ok (hexact : value.isExact = true) (h : signed < horizon)
    (hseal : sealer.seal value lifetime purpose signed = .ok token) (now : ℤ) :
    sealer.unseal token purpose now
      = if isExpired lifetime (Instant.wholeSeconds signed).toNat now then .error .expired
        else .ok value := by
  have hsecond := Instant.wholeSeconds_lt h
  exact unseal_of_seal_dated hexact (Calendar.check_ok (by omega)) hseal now

theorem isExpired_wholeSeconds (hsigned : 0 ≤ signed) (h : signed < horizon) (hnow : now < horizon) :
    isExpired lifetime (Instant.wholeSeconds signed).toNat now = false
      ↔ 0 < lifetime ∧ now ≤ (signed / 1000000 + lifetime) * 1000000 := by
  have hsecond : ((Instant.wholeSeconds signed).toNat : ℤ) = signed / 1000000 := by
    rw [Instant.wholeSeconds_eq hsigned h]
    omega
  rw [← Bool.not_eq_true, isExpired_iff hnow, hsecond]
  omega

theorem exists_seal (sealer : Sealer) (value : Json) (lifetime : ℤ) (purpose : String)
    (hproper : value.isBroken = false) (hdigits : value.digits ≤ Integer.digitLimit)
    (hdepth : value.depth < Json.depthLimit)
    (hlifetime : (Integer.natText lifetime.natAbs).length ≤ Integer.digitLimit)
    (hsigned : 0 ≤ signed) (h : signed < horizon) :
    ∃ token, sealer.seal value lifetime purpose signed = .ok token := by
  have hsecond := Instant.wholeSeconds_eq hsigned h
  have hlt := Instant.wholeSeconds_lt h
  refine ⟨_, seal_eq hdigits hlifetime hdepth hproper ?_ ?_⟩
  · omega
  · simp only [Double.natPow_eq]
    omega

end
end OnAir.Seal
