import OnAir.Text.Blank
import OnAir.Text.Quoted

/-!
# Hexadecimal digits come back as they were written

A digit stands for the low four bits of a byte. Four digits spell a number below 2^16. Bytes come
back whatever the case of the letters.
-/

namespace OnAir.Hex

theorem forall_byte {p : UInt8 → Prop} (h : ∀ n < 256, p (UInt8.ofNat n)) (b : UInt8) : p b := by
  rw [← UInt8.ofNat_toNat (x := b)]
  exact h b.toNat b.toNat_lt

theorem digit_and (b : UInt8) : digit (b &&& 15) = digit b := by
  have h : b &&& 15 &&& 15 = b &&& 15 := by rw [UInt8.and_assoc]; rfl
  simp only [digit, h]

theorem toNat_and_lt (b : UInt8) : (b &&& 15).toNat < 16 := by
  rw [UInt8.toNat_and]
  exact Nat.and_lt_two_pow b.toNat (n := 4) (by decide)

theorem digit?_digit (b : UInt8) : digit? (digit b) = some (b &&& 15) := by
  have h : ∀ n < 16, digit? (digit (UInt8.ofNat n)) = some (UInt8.ofNat n) := by decide +kernel
  have := h _ (toNat_and_lt b)
  rwa [UInt8.ofNat_toNat, digit_and] at this

def isLower (c : Char) : Bool :=
  ('0' ≤ c && c ≤ '9') || ('a' ≤ c && c ≤ 'f')

theorem isLower_digit (b : UInt8) : isLower (digit b) = true := by
  have h : ∀ n < 16, isLower (digit (UInt8.ofNat n)) = true := by decide +kernel
  have := h _ (toNat_and_lt b)
  rwa [UInt8.ofNat_toNat, digit_and] at this

theorem isLower_of_mem_encode {bytes : Bytes} {c : Char} (h : c ∈ encode bytes) :
    isLower c = true := by
  obtain ⟨b, -, hc⟩ := List.mem_flatMap.mp h
  simp only [List.mem_cons, List.not_mem_nil, or_false] at hc
  rcases hc with rfl | rfl <;> exact isLower_digit _

theorem length_encode (bytes : Bytes) : (encode bytes).length = 2 * bytes.length := by
  induction bytes with
  | nil => rfl
  | cons b rest ih =>
    simp only [encode, List.flatMap_cons, List.length_append, List.length_cons,
      List.length_nil] at ih ⊢
    omega

-- -----------------------------------------------------------------------------
-- Bytes
-- -----------------------------------------------------------------------------

theorem decode?_encode (bytes : Bytes) : decode? (encode bytes) = some bytes := by
  induction bytes with
  | nil => rfl
  | cons b rest ih =>
    have hblank : isBlank (digit (b >>> 4)) = false := by
      revert b
      exact forall_byte (by decide +kernel)
    have hbyte : (b >>> 4 &&& 15) * 16 + (b &&& 15) = b := by
      revert b
      exact forall_byte (by decide +kernel)
    change decode? (digit (b >>> 4) :: digit b :: encode rest) = _
    simp [decode?, hblank, digit?_digit, ih, hbyte]

/-- What does not tell the ASCII letters of one case from the others does not tell a character from
its lower case. -/
theorem of_toLower {α : Type} {f : Char → α}
    (h : ∀ n < 128, f (Char.ofNat n).toLower = f (Char.ofNat n)) (c : Char) :
    f c.toLower = f c := by
  by_cases hc : c.toNat < 128
  · have := h c.toNat hc
    rwa [Char.ofNat_toNat] at this
  · have hupper : ¬(c.val ≥ 'A'.val ∧ c.val ≤ 'Z'.val) := fun h =>
      hc (Nat.lt_of_le_of_lt (UInt32.le_iff_toNat_le.mp h.2) (by decide))
    have hsame : c.toLower = c := dif_neg hupper
    rw [hsame]

theorem digit?_toLower (c : Char) : digit? c.toLower = digit? c :=
  of_toLower (by decide +kernel) c

theorem isBlank_toLower (c : Char) : isBlank c.toLower = isBlank c :=
  of_toLower (by decide +kernel) c

theorem decode?_lower (text : List Char) : decode? (Text.lower text) = decode? text := by
  induction text using decode?.induct with
  | case1 => rfl
  | case2 | case3 => simp_all [Text.lower, decode?, isBlank_toLower]
  | case4 | case5 | case6 =>
    simp_all [Text.lower, decode?, isBlank_toLower, digit?_toLower]

theorem decode?_of_lower {text : List Char} {bytes : Bytes} (h : Text.lower text = encode bytes) :
    decode? text = some bytes := by
  rw [← decode?_lower, h, decode?_encode]

theorem toNat_ofNat_and (n : Nat) : (UInt8.ofNat n &&& 15).toNat = n % 16 := by
  rw [UInt8.toNat_and, UInt8.toNat_ofNat']
  change n % 256 &&& 2 ^ 4 - 1 = n % 16
  rw [Nat.and_two_pow_sub_one_eq_mod]
  omega

end OnAir.Hex

namespace OnAir.Text

theorem hexDigits_four (n : Nat) :
    hexDigits 4 n = [Hex.digit (UInt8.ofNat (n / 4096)), Hex.digit (UInt8.ofNat (n / 256)),
      Hex.digit (UInt8.ofNat (n / 16)), Hex.digit (UInt8.ofNat n)] := by
  simp [hexDigits, List.range, List.range.loop]

end OnAir.Text
