import OnAir.Text.Encoding

/-!
# UTF-8 comes back as it was written

The reader takes the bytes of a character in one stretch and is between characters again, so the
bytes of a text are read as the text, strictly and lossily alike. The three longer forms of a
character have a lemma each, which names the range of every byte. Whatever bytes are read, no more
characters come out of them than there are bytes.

A document in UTF-8 shows by its first two characters that it is none in UTF-16 or UTF-32, and is
read as it was written.
-/

namespace OnAir

namespace Utf8

theorem encode_append (a b : List Char) : encode (a ++ b) = encode a ++ encode b :=
  List.flatMap_append

theorem encode_cons (c : Char) (text : List Char) :
    encode (c :: text) = String.utf8EncodeChar c ++ encode text :=
  List.flatMap_cons

@[simp] theorem ofString_ofList (text : List Char) :
    ofString (String.ofList text) = encode text := by
  simp [ofString]

theorem encodeChar_ascii {c : Char} (h : c.toNat < 128) :
    String.utf8EncodeChar c = [UInt8.ofNat c.toNat] := by
  have hv : c.val.toNat ≤ 127 := Nat.le_of_lt_succ h
  rw [String.utf8EncodeChar, if_pos hv]
  rfl

theorem item_toNat (c : Char) : item c.toNat = .char c := by
  have h : c.toNat.isValidChar := c.valid
  rw [item, dif_pos h]
  rfl

-- -----------------------------------------------------------------------------
-- Bytes of one character
-- -----------------------------------------------------------------------------

section
variable {halves : Bool} {rest : Bytes} {a b c d : UInt8}

theorem itemsFrom_cons (state : State) :
    itemsFrom halves state (b :: rest)
      = (step halves state b).1 ++ itemsFrom halves (step halves state b).2 rest := by
  cases state <;> rfl

theorem first_one (h : a.toNat < 0x80) : first halves a = ([item a.toNat], .start) := by
  have ha : a < 0x80 := UInt8.lt_iff_toNat_lt.mpr h
  simp [first, ha]

theorem first_two (h : 0xc2 ≤ a.toNat) (h' : a.toNat < 0xe0) :
    first halves a = ([], .inside 1 0x80 0xbf (a.toNat - 0xc0)) := by
  have h1 : ¬a < 0x80 := by rw [UInt8.lt_iff_toNat_lt]; simp; omega
  have h2 : ¬a < 0xc2 := by rw [UInt8.lt_iff_toNat_lt]; simp; omega
  have h3 : a < 0xe0 := UInt8.lt_iff_toNat_lt.mpr h'
  simp [first, h1, h2, h3]

theorem first_three (h : 0xe0 ≤ a.toNat) (h' : a.toNat < 0xf0) :
    first halves a = ([], .inside 2 (if a = 0xe0 then 0xa0 else 0x80)
      (if a = 0xed ∧ !halves then 0x9f else 0xbf) (a.toNat - 0xe0)) := by
  have h1 : ¬a < 0x80 := by rw [UInt8.lt_iff_toNat_lt]; simp; omega
  have h2 : ¬a < 0xc2 := by rw [UInt8.lt_iff_toNat_lt]; simp; omega
  have h3 : ¬a < 0xe0 := by rw [UInt8.lt_iff_toNat_lt]; simp; omega
  have h4 : a < 0xf0 := UInt8.lt_iff_toNat_lt.mpr h'
  simp [first, h1, h2, h3, h4]

theorem first_four (h : 0xf0 ≤ a.toNat) (h' : a.toNat < 0xf5) :
    first halves a = ([], .inside 3 (if a = 0xf0 then 0x90 else 0x80)
      (if a = 0xf4 then 0x8f else 0xbf) (a.toNat - 0xf0)) := by
  have h1 : ¬a < 0x80 := by rw [UInt8.lt_iff_toNat_lt]; simp; omega
  have h2 : ¬a < 0xc2 := by rw [UInt8.lt_iff_toNat_lt]; simp; omega
  have h3 : ¬a < 0xe0 := by rw [UInt8.lt_iff_toNat_lt]; simp; omega
  have h4 : ¬a < 0xf0 := by rw [UInt8.lt_iff_toNat_lt]; simp; omega
  have h5 : a < 0xf5 := UInt8.lt_iff_toNat_lt.mpr h'
  simp [first, h1, h2, h3, h4, h5]

theorem step_last {low high : UInt8} {code : Nat} (h : low ≤ b) (h' : b ≤ high) :
    step halves (.inside 1 low high code) b
      = ([item (code * 64 + (b.toNat - 0x80))], .start) := by
  simp [step, h, h']

theorem step_more {low high : UInt8} {code : Nat} (left : Nat) (h : low ≤ b) (h' : b ≤ high) :
    step halves (.inside (left + 2) low high code) b
      = ([], .inside (left + 1) 0x80 0xbf (code * 64 + (b.toNat - 0x80))) := by
  simp [step, h, h']

def Continues (b : UInt8) : Prop := 0x80 ≤ b ∧ b ≤ 0xbf

theorem itemsFrom_two (h : 0xc2 ≤ a.toNat) (h' : a.toNat < 0xe0) (hb : Continues b) :
    itemsFrom halves .start (a :: b :: rest)
      = item ((a.toNat - 0xc0) * 64 + (b.toNat - 0x80)) :: itemsFrom halves .start rest := by
  simp only [itemsFrom_cons, step, first_two h h', hb.1, hb.2]
  rfl

theorem itemsFrom_three (h : 0xe0 ≤ a.toNat) (h' : a.toNat < 0xf0) (hb : Continues b)
    (hlow : a = 0xe0 → 0xa0 ≤ b) (hhigh : a = 0xed → b ≤ 0x9f) (hc : Continues c) :
    itemsFrom halves .start (a :: b :: c :: rest)
      = item (((a.toNat - 0xe0) * 64 + (b.toNat - 0x80)) * 64 + (c.toNat - 0x80))
        :: itemsFrom halves .start rest := by
  have hb1 : (if a = 0xe0 then 0xa0 else 0x80) ≤ b := by split <;> simp_all [Continues]
  have hb2 : b ≤ (if a = 0xed ∧ !halves then 0x9f else 0xbf) := by
    split <;> simp_all [Continues]
  rw [itemsFrom_cons, step, first_three h h', itemsFrom_cons, step_more 0 hb1 hb2,
    itemsFrom_cons, step_last hc.1 hc.2]
  rfl

theorem itemsFrom_four (h : 0xf0 ≤ a.toNat) (h' : a.toNat < 0xf5) (hb : Continues b)
    (hlow : a = 0xf0 → 0x90 ≤ b) (hhigh : a = 0xf4 → b ≤ 0x8f) (hc : Continues c)
    (hd : Continues d) :
    itemsFrom halves .start (a :: b :: c :: d :: rest)
      = item ((((a.toNat - 0xf0) * 64 + (b.toNat - 0x80)) * 64 + (c.toNat - 0x80)) * 64
          + (d.toNat - 0x80)) :: itemsFrom halves .start rest := by
  have hb1 : (if a = 0xf0 then 0x90 else 0x80) ≤ b := by split <;> simp_all [Continues]
  have hb2 : b ≤ (if a = 0xf4 then 0x8f else 0xbf) := by split <;> simp_all [Continues]
  rw [itemsFrom_cons, step, first_four h h', itemsFrom_cons, step_more 1 hb1 hb2,
    itemsFrom_cons, step_more 0 hc.1 hc.2, itemsFrom_cons, step_last hd.1 hd.2]
  rfl

end

-- -----------------------------------------------------------------------------
-- Whole texts
-- -----------------------------------------------------------------------------

theorem toNat_ofNat_byte {n : Nat} (h : n < 256) : (UInt8.ofNat n).toNat = n := by
  simp [UInt8.toNat_ofNat', Nat.mod_eq_of_lt h]

theorem le_ofNat_byte {n : Nat} {b : UInt8} (h : n < 256) : b ≤ UInt8.ofNat n ↔ b.toNat ≤ n := by
  rw [UInt8.le_iff_toNat_le, toNat_ofNat_byte h]

theorem ofNat_byte_le {n : Nat} {b : UInt8} (h : n < 256) : UInt8.ofNat n ≤ b ↔ n ≤ b.toNat := by
  rw [UInt8.le_iff_toNat_le, toNat_ofNat_byte h]

theorem eq_toNat_of_ofNat_byte {n : Nat} {b : UInt8} (h : n < 256) (he : UInt8.ofNat n = b) :
    n = b.toNat := by
  rw [← he, toNat_ofNat_byte h]

theorem continues_ofNat (n : Nat) : Continues (UInt8.ofNat (n % 64 + 128)) := by
  have h : n % 64 + 128 < 256 := by omega
  rw [Continues, le_ofNat_byte h, ofNat_byte_le h]
  exact ⟨Nat.le_add_left 128 _, show _ ≤ 191 by omega⟩

section
variable (halves : Bool) {c : Char} (rest : Bytes)

theorem itemsFrom_char_two (h : 0x7f < c.toNat) (h' : c.toNat ≤ 0x7ff) :
    itemsFrom halves .start (UInt8.ofNat (c.toNat / 64 % 32 + 192)
        :: UInt8.ofNat (c.toNat % 64 + 128) :: rest)
      = .char c :: itemsFrom halves .start rest := by
  have ha := toNat_ofNat_byte (n := c.toNat / 64 % 32 + 192) (by omega)
  have hb := toNat_ofNat_byte (n := c.toNat % 64 + 128) (by omega)
  have hcode : (c.toNat / 64 % 32 + 192 - 192) * 64 + (c.toNat % 64 + 128 - 128) = c.toNat := by
    omega
  rw [itemsFrom_two (by omega) (by omega) (continues_ofNat _), ha, hb, hcode, item_toNat]

theorem itemsFrom_char_three (h : 0x7ff < c.toNat) (h' : c.toNat ≤ 0xffff) :
    itemsFrom halves .start (UInt8.ofNat (c.toNat / 4096 % 16 + 224)
        :: UInt8.ofNat (c.toNat / 64 % 64 + 128) :: UInt8.ofNat (c.toNat % 64 + 128) :: rest)
      = .char c :: itemsFrom halves .start rest := by
  have hvalid : c.toNat < 0xd800 ∨ 0xdfff < c.toNat ∧ c.toNat < 0x110000 := c.valid
  have hn : c.toNat / 4096 % 16 + 224 < 256 := by omega
  have hm : c.toNat / 64 % 64 + 128 < 256 := by omega
  have ha := toNat_ofNat_byte hn
  have hb := toNat_ofNat_byte hm
  have hc := toNat_ofNat_byte (n := c.toNat % 64 + 128) (by omega)
  have hlow : c.toNat / 4096 % 16 + 224 = 224 → 160 ≤ c.toNat / 64 % 64 + 128 := by omega
  have hhigh : c.toNat / 4096 % 16 + 224 = 237 → c.toNat / 64 % 64 + 128 ≤ 159 := by omega
  have hcode : ((c.toNat / 4096 % 16 + 224 - 224) * 64 + (c.toNat / 64 % 64 + 128 - 128)) * 64
      + (c.toNat % 64 + 128 - 128) = c.toNat := by omega
  rw [itemsFrom_three (by omega) (by omega) (continues_ofNat _)
    (fun he => (le_ofNat_byte hm).mpr (hlow (eq_toNat_of_ofNat_byte hn he)))
    (fun he => (ofNat_byte_le hm).mpr (hhigh (eq_toNat_of_ofNat_byte hn he)))
    (continues_ofNat _), ha, hb, hc, hcode, item_toNat]

theorem itemsFrom_char_four (h : 0xffff < c.toNat) :
    itemsFrom halves .start (UInt8.ofNat (c.toNat / 262144 % 8 + 240)
        :: UInt8.ofNat (c.toNat / 4096 % 64 + 128) :: UInt8.ofNat (c.toNat / 64 % 64 + 128)
        :: UInt8.ofNat (c.toNat % 64 + 128) :: rest)
      = .char c :: itemsFrom halves .start rest := by
  have hvalid : c.toNat < 0xd800 ∨ 0xdfff < c.toNat ∧ c.toNat < 0x110000 := c.valid
  have hn : c.toNat / 262144 % 8 + 240 < 256 := by omega
  have hm : c.toNat / 4096 % 64 + 128 < 256 := by omega
  have ha := toNat_ofNat_byte hn
  have hb := toNat_ofNat_byte hm
  have hc := toNat_ofNat_byte (n := c.toNat / 64 % 64 + 128) (by omega)
  have hd := toNat_ofNat_byte (n := c.toNat % 64 + 128) (by omega)
  have hlow : c.toNat / 262144 % 8 + 240 = 240 → 144 ≤ c.toNat / 4096 % 64 + 128 := by omega
  have hhigh : c.toNat / 262144 % 8 + 240 = 244 → c.toNat / 4096 % 64 + 128 ≤ 143 := by omega
  have hcode : (((c.toNat / 262144 % 8 + 240 - 240) * 64 + (c.toNat / 4096 % 64 + 128 - 128)) * 64
      + (c.toNat / 64 % 64 + 128 - 128)) * 64 + (c.toNat % 64 + 128 - 128) = c.toNat := by omega
  rw [itemsFrom_four (by omega) (by omega) (continues_ofNat _)
    (fun he => (le_ofNat_byte hm).mpr (hlow (eq_toNat_of_ofNat_byte hn he)))
    (fun he => (ofNat_byte_le hm).mpr (hhigh (eq_toNat_of_ofNat_byte hn he)))
    (continues_ofNat _) (continues_ofNat _), ha, hb, hc, hd, hcode, item_toNat]

end

theorem itemsFrom_encodeChar (halves : Bool) (c : Char) (rest : Bytes) :
    itemsFrom halves .start (String.utf8EncodeChar c ++ rest)
      = .char c :: itemsFrom halves .start rest := by
  have hval : c.val.toNat = c.toNat := rfl
  simp only [String.utf8EncodeChar, hval]
  split
  next h =>
    have ha := toNat_ofNat_byte (n := c.toNat) (by omega)
    rw [List.cons_append, itemsFrom_cons, step, first_one (by omega), ha, item_toNat]
    rfl
  split
  next h1 h2 => exact itemsFrom_char_two halves rest (by omega) h2
  split
  next h1 h2 h3 => exact itemsFrom_char_three halves rest (by omega) h3
  next h1 h2 h3 => exact itemsFrom_char_four halves rest (by omega)

theorem items_encode (halves : Bool) (text : List Char) :
    items halves (encode text) = text.map Item.char := by
  induction text with
  | nil => rfl
  | cons c text ih =>
    rw [items, encode_cons, itemsFrom_encodeChar, List.map_cons]
    exact congrArg _ ih

theorem decodeLossy_encode (text : List Char) : decodeLossy (encode text) = text := by
  rw [decodeLossy, items_encode, List.map_map]
  exact List.map_id text

theorem decode?_encode (text : List Char) : decode? (encode text) = some text := by
  rw [decode?, items_encode]
  induction text with
  | nil => rfl
  | cons c text ih => simp [ih]

theorem ofString_injective {a b : String} (h : ofString a = ofString b) : a = b := by
  have h' := congrArg decode? h
  simp only [ofString, decode?_encode, Option.some.injEq] at h'
  exact String.toList_inj.mp h'

-- -----------------------------------------------------------------------------
-- Lengths
-- -----------------------------------------------------------------------------

def State.due : State → Nat
  | .start => 0
  | .inside .. => 1

theorem first_length (halves : Bool) (b : UInt8) :
    (first halves b).1.length + (first halves b).2.due ≤ 1 := by
  unfold first
  simp only
  repeat' split
  all_goals simp [State.due]

theorem step_length (halves : Bool) (state : State) (b : UInt8) :
    (step halves state b).1.length + (step halves state b).2.due ≤ state.due + 1 := by
  have hfirst := first_length halves b
  cases state with
  | start => exact hfirst
  | inside left low high code =>
    rw [step]
    split
    · dsimp only
      split <;> simp [State.due]
    · simp only [State.due, List.length_cons] at hfirst ⊢
      omega

theorem itemsFrom_length (halves : Bool) (state : State) (bytes : Bytes) :
    (itemsFrom halves state bytes).length ≤ bytes.length + state.due := by
  induction bytes generalizing state with
  | nil => cases state <;> simp [itemsFrom, State.due]
  | cons b rest ih =>
    have hstep := step_length halves state b
    have hrest := ih (step halves state b).2
    rw [itemsFrom_cons, List.length_append, List.length_cons]
    omega

theorem length_decodeLossy_le (bytes : Bytes) : (decodeLossy bytes).length ≤ bytes.length := by
  rw [decodeLossy, List.length_map]
  exact itemsFrom_length false .start bytes

end Utf8

-- -----------------------------------------------------------------------------
-- Documents
-- -----------------------------------------------------------------------------

namespace Encoding

theorem textAndHalves_char (text : List Char) :
    textAndHalves (text.map .char) = (text, []) := by
  induction text with
  | nil => rfl
  | cons c rest ih => simp [textAndHalves, ih]

theorem detect_of_ascii {a b : UInt8} (ha : 0 < a) (ha' : a < 128) (hb : 0 < b) (rest : Bytes) :
    detect (a :: b :: rest) = (.utf8, a :: b :: rest) := by
  have hne : ∀ n : UInt8, n = 0 ∨ 128 ≤ n → n ≠ a := by
    rintro n (rfl | hn) rfl
    · exact UInt8.lt_irrefl 0 ha
    · exact UInt8.lt_irrefl n (UInt8.lt_of_lt_of_le ha' hn)
  have hb0 : b ≠ 0 := by
    rintro rfl
    exact UInt8.lt_irrefl 0 hb
  have h0 := hne 0 (.inl rfl)
  have hguess : guess (a :: b :: rest) = .utf8 := by
    rcases rest with _ | ⟨c, _ | ⟨d, rest⟩⟩
    · rw [guess, if_neg h0.symm, if_neg hb0]
    · rfl
    · rw [guess, if_neg h0.symm, if_neg hb0]
  simp [detect, marks, Text.after?, hguess, h0, hne 0xfe (.inr (by decide)),
    hne 0xff (.inr (by decide)), hne 0xef (.inr (by decide))]

theorem document?_encode {c d : Char} (hc : 0 < c.toNat) (hc' : c.toNat < 128) (hd : 0 < d.toNat)
    (hd' : d.toNat < 128) (tail : List Char) :
    document? (Utf8.encode (c :: d :: tail)) = some (c :: d :: tail, []) := by
  have hbytes : Utf8.encode (c :: d :: tail)
      = UInt8.ofNat c.toNat :: UInt8.ofNat d.toNat :: Utf8.encode tail := by
    simp [Utf8.encode_cons, Utf8.encodeChar_ascii hc', Utf8.encodeChar_ascii hd']
  have hbyte {n : Nat} (h : 0 < n) (h' : n < 128) :
      0 < UInt8.ofNat n ∧ UInt8.ofNat n < 128 := by
    have hn : (UInt8.ofNat n).toNat = n := Utf8.toNat_ofNat_byte (by omega)
    rw [UInt8.lt_iff_toNat_lt, UInt8.lt_iff_toNat_lt, hn]
    exact ⟨h, h'⟩
  have hdetect : detect (Utf8.encode (c :: d :: tail)) = (.utf8, Utf8.encode (c :: d :: tail)) := by
    rw [hbytes, detect_of_ascii (hbyte hc hc').1 (hbyte hc hc').2 (hbyte hd hd').1]
  have hgood : ((c :: d :: tail).map Utf8.Item.char).contains .bad = false := by
    simp
  simp only [document?, hdetect, items, Utf8.items_encode, hgood, textAndHalves_char]
  rfl

end Encoding
end OnAir
