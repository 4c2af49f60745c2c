import OnAir.Json.Reader
import OnAir.Json.Writer
import OnAir.Proofs.Bytes.Hex

/-!
# Strings and integers in JSON

Raw text is nothing but its codes: it has those that it was made of, and those of a text make that
text.

A string is read as the codes of the characters it was written for, whatever follows it. An integer
is read as itself if what follows cannot go on with it, which is so before a comma, before a closing
bracket and at the end.
-/

namespace OnAir.RawText

theorem ofCodes_toNat (s : String) : ofCodes (s.toList.map Char.toNat) = .text s := by
  have hvalid : (s.toList.map Char.toNat).all (fun n => Nat.isValidChar n) = true := by
    simp only [List.all_map, List.all_eq_true]
    intro c _
    exact decide_eq_true c.valid
  have hchars : (s.toList.map Char.toNat).map Char.ofNat = s.toList := by
    rw [List.map_map]
    exact (List.map_congr_left fun c _ => Char.ofNat_toNat c).trans (List.map_id _)
  rw [ofCodes, if_pos hvalid, hchars, String.ofList_toList]

theorem codes_ofCodes (codes : List Nat) : (ofCodes codes).codes = codes := by
  rw [ofCodes]
  split
  next hvalid =>
    rw [RawText.codes, String.toList_ofList, List.map_map]
    refine (List.map_congr_left fun code hcode => ?_).trans (List.map_id codes)
    have hchar := of_decide_eq_true (List.all_eq_true.mp hvalid code hcode)
    have hofNat : Char.ofNat code = Char.ofNatAux code hchar := dif_pos hchar
    rw [Function.comp_apply, hofNat]
    rfl
  next => rfl

theorem text_append (a b : String) : text a ++ text b = text (a ++ b) := by
  rw [← ofCodes_toNat (a ++ b), String.toList_append, List.map_append]
  rfl

end OnAir.RawText

namespace OnAir.Json

-- -----------------------------------------------------------------------------
-- Strings
-- -----------------------------------------------------------------------------

theorem unit?_hexDigits {n : Nat} (h : n < 65536) (c : Char) (rest : List Char) :
    unit? (Text.hexDigits 4 n ++ c :: rest) = some n := by
  have hn : ((n / 4096 % 16 * 16 + n / 256 % 16) * 16 + n / 16 % 16) * 16 + n % 16 = n := by
    omega
  simp only [Text.hexDigits_four, List.cons_append, List.nil_append, unit?, Hex.digit?_digit,
    Option.bind_eq_bind, Option.bind_some, Hex.toNat_ofNat_and, hn]
  rfl

theorem scanString_plain {start rest : List Char} {c : Char} (hquote : c ≠ '"') (hslash : c ≠ '\\')
    (hcontrol : ¬c < ' ') :
    scanString [] start (c :: rest)
      = (scanString [] start rest).map fun (codes, after) => (c.toNat :: codes, after) := by
  rw [scanString.eq_def]
  simp [hquote, hslash, hcontrol, codeAt]

theorem scanString_escape {start rest : List Char} {e c : Char} (hu : e ≠ 'u')
    (h : escaped? e = some c) :
    scanString [] start ('\\' :: e :: rest)
      = (scanString [] start rest).map fun (codes, after) => (c.toNat :: codes, after) := by
  rw [scanString]
  simp [hu, h]

theorem scanString_code {start rest : List Char} {n : Nat} (h : n < 0xd800) (c : Char) :
    scanString [] start ('\\' :: 'u' :: (Text.hexDigits 4 n ++ c :: rest))
      = (scanString [] start (c :: rest)).map fun (codes, after) => (n :: codes, after) := by
  have hhalf : isHighHalf n = false := by simp [isHighHalf]; omega
  have hdrop : (Text.hexDigits 4 n ++ c :: rest).drop 4 = c :: rest := by
    rw [Text.hexDigits_four]; rfl
  rw [scanString]
  simp [unit?_hexDigits (Nat.lt_trans h (by decide)), hhalf, hdrop]

theorem scanString_stringChar (start : List Char) (c d : Char) (rest : List Char) :
    scanString [] start (stringChar c ++ d :: rest)
      = (scanString [] start (d :: rest)).map fun (codes, after) => (c.toNat :: codes, after) := by
  unfold stringChar
  split
  next h =>
    rcases h with rfl | rfl <;> exact scanString_escape (by decide) rfl
  split
  next h => subst h; exact scanString_escape (by decide) rfl
  split
  next h => subst h; exact scanString_escape (by decide) rfl
  split
  next h => subst h; exact scanString_escape (by decide) rfl
  split
  next h => subst h; exact scanString_escape (by decide) rfl
  split
  next h => subst h; exact scanString_escape (by decide) rfl
  split
  next h =>
    have hc : c.toNat < 32 := h
    exact scanString_code (Nat.lt_trans hc (by decide)) d
  next hquote _ _ _ _ _ hcontrol =>
    rw [not_or] at hquote
    exact scanString_plain hquote.1 hquote.2 hcontrol

theorem scanString_flatMap (start text rest : List Char) :
    scanString [] start (text.flatMap stringChar ++ '"' :: rest)
      = .ok (text.map Char.toNat, rest) := by
  induction text with
  | nil =>
    rw [List.flatMap_nil, List.nil_append, scanString.eq_def]
    rfl
  | cons c text ih =>
    obtain ⟨d, tail, hd⟩ : ∃ d tail, text.flatMap stringChar ++ '"' :: rest = d :: tail :=
      List.exists_cons_of_ne_nil (by simp)
    rw [List.flatMap_cons, List.append_assoc, hd, scanString_stringChar, ← hd, ih]
    rfl

-- -----------------------------------------------------------------------------
-- Integers
-- -----------------------------------------------------------------------------

def Closes (rest : List Char) : Prop := ∀ c ∈ rest.head?, c = ',' ∨ c = ']' ∨ c = '}'

theorem isDigit_of_mem_natText {n : Nat} {c : Char} (h : c ∈ Integer.natText n) :
    isDigit c = true :=
  Nat.isDigit_of_mem_toDigits (by decide) (by decide) h

theorem decimal_natText (n : Nat) : decimal (Integer.natText n) = n := by
  rw [decimal, Integer.ofDigits, List.foldl_map]
  have h : (fun (x : Nat) (c : Char) => x * 10 + (c.toNat - 48))
      = fun x c => 10 * x + (c.toNat - '0'.toNat) := by
    funext x c
    rw [Nat.mul_comm]
    rfl
  rw [h]
  exact Nat.ofDigitChars_ten_toDigits

theorem head?_natText_append (n : Nat) (rest : List Char) :
    (Integer.natText n ++ rest).head? = (Integer.natText n).head? := by
  obtain ⟨d, digits, h⟩ := List.exists_cons_of_ne_nil (Nat.toDigits_ne_nil (n := n) (b := 10))
  rw [Integer.natText, h]
  rfl

theorem head?_natText {n : Nat} (h : (Integer.natText n).head? = some '0') : n = 0 := by
  induction n using Nat.strongRecOn with
  | ind n ih =>
    rw [Integer.natText, Nat.toDigits_eq_if (by decide)] at h
    split at h
    · simpa using h
    · have hhead := head?_natText_append (n / 10) [(n % 10).digitChar]
      have := ih (n / 10) (by omega) (hhead ▸ h)
      omega

section
variable {rest : List Char} (hrest : Closes rest)
include hrest

theorem takeWhile_isDigit : rest.takeWhile isDigit = [] := by
  cases rest with
  | nil => rfl
  | cons c rest =>
    have : isDigit c = false := by
      rcases hrest c rfl with rfl | rfl | rfl <;> rfl
    simp [this]

theorem dropWhile_isDigit : rest.dropWhile isDigit = rest := by
  have h := List.takeWhile_append_dropWhile (p := isDigit) (l := rest)
  rwa [takeWhile_isDigit hrest] at h

theorem scanFraction_closes : scanFraction rest = ([], rest) := by
  cases rest with
  | nil => rfl
  | cons c rest =>
    have : c ≠ '.' := by rcases hrest c rfl with rfl | rfl | rfl <;> decide
    simp [scanFraction, this]

theorem scanExponent_closes : scanExponent rest = (none, rest) := by
  cases rest with
  | nil => rfl
  | cons c rest =>
    have he : c ≠ 'e' := by rcases hrest c rfl with rfl | rfl | rfl <;> decide
    have hE : c ≠ 'E' := by rcases hrest c rfl with rfl | rfl | rfl <;> decide
    simp [scanExponent, he, hE]

theorem scanWhole_natText (n : Nat) :
    scanWhole (Integer.natText n ++ rest) = (Integer.natText n, rest) := by
  have hdigits : ∀ c ∈ Integer.natText n, isDigit c = true := fun _ => isDigit_of_mem_natText
  rw [scanWhole, head?_natText_append]
  split
  next hzero =>
    have hn := head?_natText hzero
    subst hn
    rfl
  next =>
    rw [List.takeWhile_append_of_pos hdigits, List.dropWhile_append_of_pos hdigits,
      takeWhile_isDigit hrest, dropWhile_isDigit hrest, List.append_nil]

theorem scanNumber_natText {n : Nat} (h : (Integer.natText n).length ≤ Integer.digitLimit)
    {text : List Char} {negative : Bool}
    (hsign : splitMinus text = (negative, Integer.natText n ++ rest)) :
    scanNumber text = .ok (.int (if negative then -n else n), rest) := by
  have hne : Integer.natText n ≠ [] := Nat.toDigits_ne_nil
  simp [scanNumber, hsign, scanWhole_natText hrest, hne, scanFraction_closes hrest,
    scanExponent_closes hrest, numberOf, Nat.not_lt.mpr h, decimal_natText, Except.map]

end

end OnAir.Json
