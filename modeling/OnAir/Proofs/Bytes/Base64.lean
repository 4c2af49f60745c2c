import OnAir.Bytes.Base64
import OnAir.Proofs.Text.Utf8

/-!
# Base 64 comes back as it was written

A symbol is one byte, and the reader takes it for the six bits it was written for. The rest is the
arithmetic of bits across the bytes of a group. It holds for both alphabets, and with the closing
signs left off.
-/

namespace OnAir.Base64

def symbolByte (alphabet : Alphabet) (v : UInt8) : UInt8 :=
  UInt8.ofNat (symbol alphabet v).toNat

def alphabets : List Alphabet := [urlSafe, standard]

-- -----------------------------------------------------------------------------
-- Symbols
-- -----------------------------------------------------------------------------

theorem symbol_and (alphabet : Alphabet) (v : UInt8) :
    symbol alphabet (v &&& 63) = symbol alphabet v := by
  have h : v &&& 63 &&& 63 = v &&& 63 := by rw [UInt8.and_assoc]; rfl
  simp only [symbol, h]

theorem sixBits_toNat_lt (v : UInt8) : (v &&& 63).toNat < 64 := by
  rw [UInt8.toNat_and]
  exact Nat.and_lt_two_pow v.toNat (n := 6) (by decide)

theorem sixBits_all {P : UInt8 → Prop} (h : ∀ n < 64, P (UInt8.ofNat n)) (v : UInt8) :
    P (v &&& 63) := by
  have hv := h _ (sixBits_toNat_lt v)
  rwa [UInt8.ofNat_toNat] at hv

theorem symbol_ascii {alphabet : Alphabet} (h : alphabet ∈ alphabets) (v : UInt8) :
    (symbol alphabet v).toNat < 128 := by
  rw [← symbol_and]
  refine sixBits_all (P := fun v => (symbol alphabet v).toNat < 128) ?_ v
  revert alphabet
  decide +kernel

theorem value?_symbolByte {alphabet : Alphabet} (h : alphabet ∈ alphabets) (v : UInt8) :
    value? (symbolByte alphabet v) = some (v &&& 63) := by
  rw [symbolByte, ← symbol_and]
  refine sixBits_all (P := fun v => value? (UInt8.ofNat (symbol alphabet v).toNat) = some v) ?_ v
  revert alphabet
  decide +kernel

theorem symbolByte_ne {alphabet : Alphabet} (h : alphabet ∈ alphabets) {b : UInt8}
    (hb : value? b = none) (v : UInt8) : symbolByte alphabet v ≠ b := by
  intro he
  have := value?_symbolByte h v
  rw [he, hb] at this
  cases this

theorem encodeChar_symbol {alphabet : Alphabet} (h : alphabet ∈ alphabets) (v : UInt8) :
    String.utf8EncodeChar (symbol alphabet v) = [symbolByte alphabet v] :=
  Utf8.encodeChar_ascii (symbol_ascii h v)

-- -----------------------------------------------------------------------------
-- Groups of bits
-- -----------------------------------------------------------------------------

private theorem eq_of_bits {a b : UInt8}
    (h : ∀ i < 8, a.toBitVec.getLsbD i = b.toBitVec.getLsbD i) : a = b :=
  UInt8.eq_of_toBitVec_eq (BitVec.eq_of_getLsbD_eq h)

private theorem bit_cases {i : Nat} (h : i < 8) :
    i = 0 ∨ i = 1 ∨ i = 2 ∨ i = 3 ∨ i = 4 ∨ i = 5 ∨ i = 6 ∨ i = 7 := by
  omega

private theorem first_bits (a b : UInt8) :
    ((a >>> 2 &&& 63) <<< 2) ||| ((((a <<< 4) ||| (b >>> 4)) &&& 63) >>> 4) = a := by
  refine eq_of_bits fun i hi => ?_
  rcases bit_cases hi with rfl | rfl | rfl | rfl | rfl | rfl | rfl | rfl <;> simp

private theorem second_bits (a b c : UInt8) :
    ((((a <<< 4) ||| (b >>> 4)) &&& 63 &&& 15) <<< 4) |||
      ((((b <<< 2) ||| (c >>> 6)) &&& 63) >>> 2) = b := by
  refine eq_of_bits fun i hi => ?_
  rcases bit_cases hi with rfl | rfl | rfl | rfl | rfl | rfl | rfl | rfl <;> simp

private theorem third_bits (b c : UInt8) :
    ((((b <<< 2) ||| (c >>> 6)) &&& 63 &&& 3) <<< 6) ||| (c &&& 63) = c := by
  refine eq_of_bits fun i hi => ?_
  rcases bit_cases hi with rfl | rfl | rfl | rfl | rfl | rfl | rfl | rfl <;> simp

-- -----------------------------------------------------------------------------
-- Whole texts
-- -----------------------------------------------------------------------------

section
variable {alphabet : Alphabet} (h : alphabet ∈ alphabets)
include h

theorem decodeAfter_symbolByte (group : Group) (v : UInt8) (rest : Bytes) :
    decodeAfter group (symbolByte alphabet v :: rest) =
      match group with
      | .zero => decodeAfter (.one (v &&& 63)) rest
      | .one carry => (decodeAfter (.two (v &&& 63 &&& 15) false) rest).map
          (((carry <<< 2) ||| ((v &&& 63) >>> 4)) :: ·)
      | .two carry _ => (decodeAfter (.three (v &&& 63 &&& 3)) rest).map
          (((carry <<< 4) ||| ((v &&& 63) >>> 2)) :: ·)
      | .three carry => (decodeAfter .zero rest).map (((carry <<< 6) ||| (v &&& 63)) :: ·) := by
  have hne : symbolByte alphabet v ≠ 61 := symbolByte_ne h rfl v
  cases group <;> simp only [decodeAfter, hne, ↓reduceIte, value?_symbolByte h v]

theorem decodeAfter_encode (bytes : Bytes) :
    decodeAfter .zero (Utf8.encode (encode alphabet bytes)
      ++ List.replicate (padding (encode alphabet bytes).length) 61) = some bytes := by
  fun_induction encode alphabet bytes with
  | case1 => rfl
  | case2 a =>
    have hbits : ((a >>> 2 &&& 63) <<< 2) ||| (((a <<< 4) &&& 63) >>> 4) = a := by
      simpa using first_bits a 0
    simp only [Utf8.encode_cons, encodeChar_symbol h, List.cons_append, List.nil_append,
      decodeAfter_symbolByte h, hbits]
    rfl
  | case3 a b =>
    have hbits : (((((a <<< 4) ||| (b >>> 4)) &&& 63 &&& 15) <<< 4) |||
        (((b <<< 2) &&& 63) >>> 2)) = b := by
      simpa using second_bits a b 0
    simp only [Utf8.encode_cons, encodeChar_symbol h, List.cons_append, List.nil_append,
      decodeAfter_symbolByte h, first_bits, hbits]
    rfl
  | case4 a b c rest ih =>
    have hpad : padding ((encode alphabet rest).length + 1 + 1 + 1 + 1)
        = padding (encode alphabet rest).length := by
      simp only [padding]; omega
    simp only [Utf8.encode_cons, encodeChar_symbol h, List.cons_append, List.nil_append,
      decodeAfter_symbolByte h, List.length_cons, hpad, ih, Option.map_some, first_bits,
      second_bits, third_bits]

theorem encode_eq_map (bytes : Bytes) :
    Utf8.encode (encode alphabet bytes)
      = (encode alphabet bytes).map fun c => UInt8.ofNat c.toNat := by
  fun_induction encode alphabet bytes <;>
    simp_all [encodeChar_symbol h, symbolByte, Utf8.encode]

omit h in
theorem length_encode (bytes : Bytes) :
    (encode alphabet bytes).length = (4 * bytes.length + 2) / 3 := by
  fun_induction encode alphabet bytes with
  | case1 => rfl
  | case2 | case3 => simp
  | case4 a b c rest ih =>
    simp only [List.length_cons, ih]
    omega

theorem decode?_encode (bytes : Bytes) :
    decode? (Utf8.encode (encode alphabet bytes)) = some bytes := by
  have hlength : (Utf8.encode (encode alphabet bytes)).length = (encode alphabet bytes).length := by
    rw [encode_eq_map h, List.length_map]
  rw [decode?, hlength, decodeAfter_encode h]

theorem decodeAfter_encodePadded (bytes : Bytes) :
    decodeAfter .zero (Utf8.encode (encodePadded alphabet bytes)) = some bytes := by
  have hsigns (n : Nat) : Utf8.encode (List.replicate n '=') = List.replicate n 61 := by
    induction n with
    | zero => rfl
    | succ n ih => rw [List.replicate_succ, Utf8.encode_cons, ih]; rfl
  rw [encodePadded, Utf8.encode_append, hsigns, decodeAfter_encode h]

omit h in
theorem exists_symbol {c : Char} {bytes : Bytes} (hc : c ∈ encode alphabet bytes) :
    ∃ v, c = symbol alphabet v := by
  fun_induction encode alphabet bytes with
  | case1 => cases hc
  | case2 a =>
    simp only [List.mem_cons, List.not_mem_nil, or_false] at hc
    rcases hc with rfl | rfl <;> exact ⟨_, rfl⟩
  | case3 a b =>
    simp only [List.mem_cons, List.not_mem_nil, or_false] at hc
    rcases hc with rfl | rfl | rfl <;> exact ⟨_, rfl⟩
  | case4 a b c rest ih =>
    simp only [List.mem_cons] at hc
    rcases hc with rfl | rfl | rfl | rfl | hc
    · exact ⟨_, rfl⟩
    · exact ⟨_, rfl⟩
    · exact ⟨_, rfl⟩
    · exact ⟨_, rfl⟩
    · exact ih hc

theorem not_mem_encode {b : UInt8} (hb : value? b = none) (bytes : Bytes) :
    b ∉ Utf8.encode (encode alphabet bytes) := by
  have hne := fun v => (symbolByte_ne h hb v).symm
  fun_induction encode alphabet bytes <;>
    simp_all [encodeChar_symbol h, Utf8.encode]

end

end OnAir.Base64
