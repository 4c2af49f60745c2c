import OnAir.Proofs.Bytes.Hex
import OnAir.Proofs.Text.Cut
import OnAir.Proofs.Text.Utf8
import OnAir.Url.Percent

/-!
# Quoted texts come back

Unquoting collects the bytes that quoting has spelled out, and reads them as UTF-8 at the end, so any
text that is quoted comes back, in a path as in a form. What is quoted holds unreserved characters
and percent signs only, so no delimiter of a URL or a form is ever mistaken for one.
-/

namespace OnAir.Url

-- -----------------------------------------------------------------------------
-- Characters
-- -----------------------------------------------------------------------------

theorem byte?_upperDigit (b : UInt8) :
    byte? (Hex.upperDigit (b >>> 4)) (Hex.upperDigit b) = some b := by
  revert b
  exact Hex.forall_byte (by decide +kernel)

theorem isUnreserved_upperDigit (b : UInt8) : isUnreserved (Hex.upperDigit b) = true := by
  revert b
  exact Hex.forall_byte (by decide +kernel)

theorem toNat_lt_of_isUnreserved {c : Char} (h : isUnreserved c = true) : c.toNat < 128 := by
  have hval : c.val.toNat = c.toNat := rfl
  delta isUnreserved Char.isAlphanum Char.isAlpha Char.isUpper Char.isLower Char.isDigit at h
  simp only [Bool.or_eq_true, Bool.and_eq_true, decide_eq_true_eq, beq_iff_eq, UInt32.le_iff_toNat_le,
    ge_iff_le, hval] at h
  rcases h with (((((h | h) | h) | rfl) | rfl) | rfl) | rfl
  · exact Nat.lt_of_le_of_lt h.2 (by decide)
  · exact Nat.lt_of_le_of_lt h.2 (by decide)
  · exact Nat.lt_of_le_of_lt h.2 (by decide)
  all_goals decide

def separators : List Char :=
  ['/', '?', '#', '[', ']', '&', '=']

/-- A character that may stand in any part of a URL: in ASCII, behind the blank, and no separator. -/
def IsPlain (c : Char) : Prop :=
  ' ' < c ∧ c.toNat < 128 ∧ c ∉ separators

theorem isPlain_percent : IsPlain '%' := by
  rw [IsPlain]
  decide

theorem isPlain_plus : IsPlain '+' := by
  rw [IsPlain]
  decide

theorem isUnreserved_spec {c : Char} (h : isUnreserved c = true) :
    IsPlain c ∧ c ≠ '%' ∧ c ≠ '+' := by
  have hall : ∀ n < 128, isUnreserved (Char.ofNat n) = true →
      (' ' < Char.ofNat n ∧ Char.ofNat n ∉ separators) ∧ Char.ofNat n ≠ '%'
        ∧ Char.ofNat n ≠ '+' := by decide +kernel
  have hlt := toNat_lt_of_isUnreserved h
  obtain ⟨hplain, hmeaning⟩ := hall c.toNat hlt (by rwa [Char.ofNat_toNat])
  rw [Char.ofNat_toNat] at hplain hmeaning
  exact ⟨⟨hplain.1, hlt, hplain.2⟩, hmeaning⟩

-- -----------------------------------------------------------------------------
-- Quoting
-- -----------------------------------------------------------------------------

variable {safe : Char → Bool}

/-- What holds of the safe characters, of the percent sign and of unreserved characters holds of all
characters of a quoted text. -/
theorem forall_mem_quote {p : Char → Prop} (hsafe : ∀ c, safe c = true → p c) (hpercent : p '%')
    (hdigit : ∀ c, isUnreserved c = true → p c) (text : List Char) :
    ∀ c ∈ quote safe text, p c := by
  intro c hc
  obtain ⟨d, -, hc⟩ := List.mem_flatMap.mp hc
  rw [quoteChar] at hc
  split at hc
  next hd => exact List.mem_singleton.mp hc ▸ hsafe d hd
  next =>
    obtain ⟨b, -, hc⟩ := List.mem_flatMap.mp hc
    simp only [percent, List.mem_cons, List.not_mem_nil, or_false] at hc
    rcases hc with rfl | rfl | rfl
    · exact hpercent
    · exact hdigit _ (isUnreserved_upperDigit _)
    · exact hdigit _ (isUnreserved_upperDigit _)

theorem quoteChar_ne_nil (c : Char) : quoteChar safe c ≠ [] := by
  rw [quoteChar]
  split
  · exact List.cons_ne_nil _ _
  · rw [Utf8.encode_cons]
    cases hbytes : String.utf8EncodeChar c with
    | nil => exact absurd hbytes String.utf8EncodeChar_ne_nil
    | cons b rest => exact List.cons_ne_nil _ _

theorem quote_eq_nil {text : List Char} : quote safe text = [] ↔ text = [] := by
  cases text with
  | nil => simp [quote]
  | cons c rest => simp [quote, quoteChar_ne_nil]

theorem quote_of_safe {text : List Char} (h : ∀ c ∈ text, safe c = true) :
    quote safe text = text := by
  induction text with
  | nil => rfl
  | cons c rest ih =>
    obtain ⟨hc, hrest⟩ := List.forall_mem_cons.mp h
    rw [quote, List.flatMap_cons, ← quote, ih hrest, quoteChar, if_pos hc, List.singleton_append]

-- -----------------------------------------------------------------------------
-- Unquoting
-- -----------------------------------------------------------------------------

variable {pending : Bytes} {rest : List Char}

theorem unquoteAfter_ascii {c : Char} (h : c.toNat < 128) (hc : c ≠ '%') :
    unquoteAfter pending (c :: rest) = unquoteAfter (UInt8.ofNat c.toNat :: pending) rest := by
  rw [unquoteAfter, if_pos h]
  rintro high low rest rfl
  exact absurd rfl hc

theorem unquoteAfter_percent (bytes : Bytes) :
    unquoteAfter pending (bytes.flatMap percent ++ rest)
      = unquoteAfter (bytes.reverse ++ pending) rest := by
  induction bytes generalizing pending with
  | nil => rfl
  | cons b bytes ih =>
    simp only [List.flatMap_cons, percent, List.cons_append, List.nil_append, unquoteAfter,
      byte?_upperDigit, ih, List.reverse_cons, List.append_assoc]

def Literal (safe : Char → Bool) : Prop :=
  ∀ c, safe c = true → c.toNat < 128 ∧ c ≠ '%'

theorem unquoteAfter_quote (hsafe : Literal safe) (text : List Char) :
    unquoteAfter pending (quote safe text ++ rest)
      = unquoteAfter ((Utf8.encode text).reverse ++ pending) rest := by
  induction text generalizing pending with
  | nil => rfl
  | cons c text ih =>
    have hchar : unquoteAfter pending (quoteChar safe c ++ (quote safe text ++ rest))
        = unquoteAfter ((Utf8.encode [c]).reverse ++ pending) (quote safe text ++ rest) := by
      rw [quoteChar]
      split
      next hc =>
        obtain ⟨hascii, hne⟩ := hsafe c hc
        rw [List.singleton_append, unquoteAfter_ascii hascii hne, Utf8.encode_cons,
          Utf8.encodeChar_ascii hascii]
        rfl
      next => exact unquoteAfter_percent _
    have hbytes : Utf8.encode (c :: text) = Utf8.encode [c] ++ Utf8.encode text :=
      Utf8.encode_append [c] text
    rw [quote, List.flatMap_cons, List.append_assoc, ← quote, hchar, ih, hbytes,
      List.reverse_append, List.append_assoc]

theorem unquote_quote (hsafe : Literal safe) (text : List Char) :
    unquote (quote safe text) = text := by
  have h : unquoteAfter [] (quote safe text ++ []) = _ := unquoteAfter_quote hsafe text
  rw [List.append_nil, List.append_nil] at h
  rw [unquote, h, unquoteAfter, List.reverse_reverse, Utf8.decodeLossy_encode]

def isLiteral (c : Char) : Bool :=
  c.toNat < 128 && c ≠ '%'

theorem literal_isLiteral : Literal isLiteral := by
  intro c h
  simpa [isLiteral] using h

theorem unquote_around (hsafe : Literal safe) {front back : List Char} (text : List Char)
    (hfront : ∀ c ∈ front, isLiteral c = true) (hback : ∀ c ∈ back, isLiteral c = true) :
    unquote (front ++ quote safe text ++ back) = front ++ text ++ back := by
  have hquoted : front ++ quote safe text ++ back
      = quote isLiteral front ++ (quote safe text ++ (quote isLiteral back ++ [])) := by
    rw [quote_of_safe hfront, quote_of_safe hback, List.append_nil, List.append_assoc]
  rw [hquoted, unquote, unquoteAfter_quote literal_isLiteral, unquoteAfter_quote hsafe,
    unquoteAfter_quote literal_isLiteral, unquoteAfter]
  simp only [List.append_nil, List.reverse_append, List.reverse_reverse, ← Utf8.encode_append]
  exact Utf8.decodeLossy_encode _

theorem literal_isUnreserved : Literal isUnreserved := fun _ h =>
  ⟨toNat_lt_of_isUnreserved h, (isUnreserved_spec h).2.1⟩

theorem length_unquoteAfter_le (pending : Bytes) (text : List Char) :
    (unquoteAfter pending text).length ≤ pending.length + text.length := by
  fun_induction unquoteAfter pending text with
  | case1 pending => simpa using Utf8.length_decodeLossy_le pending.reverse
  | case2 pending high low rest b hbyte ih =>
    simp only [List.length_cons] at ih ⊢
    omega
  | case3 pending high low rest hbyte ih =>
    simp only [List.length_cons] at ih ⊢
    omega
  | case4 pending c rest _ hascii ih =>
    simp only [List.length_cons] at ih ⊢
    omega
  | case5 pending c rest _ hascii ih =>
    have hbytes := Utf8.length_decodeLossy_le pending.reverse
    simp only [List.length_append, List.length_cons, List.length_nil, List.length_reverse]
      at ih hbytes ⊢
    omega

theorem length_unquote_le (text : List Char) : (unquote text).length ≤ text.length := by
  have h := length_unquoteAfter_le [] text
  rwa [List.length_nil, Nat.zero_add] at h

-- -----------------------------------------------------------------------------
-- Segments
-- -----------------------------------------------------------------------------

theorem unquote_segment (s : String) : unquote (segment s).toList = s.toList := by
  rw [segment, String.toList_ofList]
  exact unquote_quote literal_isUnreserved s.toList

theorem isPlain_of_mem_segment {s : String} {c : Char} (hc : c ∈ (segment s).toList) :
    IsPlain c := by
  rw [segment, String.toList_ofList] at hc
  have hfree (c : Char) (h : isUnreserved c = true) : IsPlain c := (isUnreserved_spec h).1
  exact forall_mem_quote hfree isPlain_percent hfree s.toList c hc

theorem segment_of_unreserved {s : String} (h : ∀ c ∈ s.toList, isUnreserved c = true) :
    segment s = s := by
  rw [segment, quote_of_safe h, String.ofList_toList]

theorem segment_toList_ne_nil {s : String} (h : s ≠ "") : (segment s).toList ≠ [] := by
  rw [segment, String.toList_ofList, ne_eq, quote_eq_nil]
  exact mt String.toList_eq_nil_iff.mp h

-- -----------------------------------------------------------------------------
-- Forms
-- -----------------------------------------------------------------------------

namespace Form

def isKept (c : Char) : Bool :=
  isUnreserved c || c == ' '

theorem isKept_spec {c : Char} (h : isKept c = true) : isUnreserved c = true ∨ c = ' ' := by
  simpa [isKept] using h

theorem literal_isKept : Literal isKept := by
  intro c h
  rcases isKept_spec h with h | rfl
  · exact literal_isUnreserved c h
  · decide

theorem isPlain_of_mem_quote {text : List Char} {c : Char} (hc : c ∈ quote text) :
    IsPlain c := by
  obtain ⟨d, hd, rfl⟩ := List.mem_map.mp hc
  split
  next => exact isPlain_plus
  next hblank =>
    have hplain : ∀ c ∈ Url.quote isKept text, c = ' ' ∨ IsPlain c := by
      refine forall_mem_quote (p := fun c => c = ' ' ∨ IsPlain c) (fun c hkept => ?_)
        (.inr isPlain_percent) (fun c hfree => .inr (isUnreserved_spec hfree).1) text
      exact (isKept_spec hkept).symm.imp_right fun h => (isUnreserved_spec h).1
    exact (hplain d hd).resolve_left hblank

theorem map_plus_quote (text : List Char) :
    (quote text).map (fun c => if c = '+' then ' ' else c) = Url.quote isKept text := by
  rw [quote, List.map_map]
  have hplus : ∀ c ∈ Url.quote isKept text, c ≠ '+' := by
    refine forall_mem_quote (fun c hkept => ?_) (by decide)
      (fun c hfree => (isUnreserved_spec hfree).2.2) text
    rcases isKept_spec hkept with hfree | rfl
    · exact (isUnreserved_spec hfree).2.2
    · decide
  refine (List.map_congr_left fun c hc => ?_).trans (List.map_id _)
  by_cases hblank : c = ' '
  · simp [hblank]
  · simp [hblank, hplus c hc]

theorem unquote_form_quote (text : List Char) : unquote (quote text) = text := by
  rw [unquote, map_plus_quote]
  exact unquote_quote literal_isKept text

theorem quote_of_unreserved {text : List Char} (h : ∀ c ∈ text, isUnreserved c = true) :
    quote text = text := by
  have hkept : ∀ c ∈ text, isKept c = true := by
    intro c hc
    rw [isKept, h c hc]
    rfl
  have hblank : ∀ c ∈ text, c ≠ ' ' := by
    rintro c hc rfl
    cases h ' ' hc
  change (Url.quote isKept text).map (fun c => if c = ' ' then '+' else c) = text
  rw [quote_of_safe hkept]
  exact (List.map_congr_left fun c hc => if_neg (hblank c hc)).trans (List.map_id _)

theorem quote_form_eq_nil {text : List Char} : quote text = [] ↔ text = [] := by
  rw [quote, List.map_eq_nil_iff]
  exact quote_eq_nil

theorem notMem_quote {text : List Char} {c : Char} (hc : c ∈ separators) : c ∉ quote text :=
  fun hmem => (isPlain_of_mem_quote hmem).2.2 hc

-- -----------------------------------------------------------------------------
-- Lists of pairs
-- -----------------------------------------------------------------------------

variable {blanks : Bool} {entry : String × String}

theorem pair_ne_nil (entry : String × String) : pair entry ≠ [] := by
  simp [pair]

theorem notMem_pair (entry : String × String) : '&' ∉ pair entry := by
  have hquote (text : List Char) : '&' ∉ quote text := notMem_quote (by decide)
  simp [pair, hquote]

theorem readPair?_pair :
    readPair? blanks (pair entry) = if entry.2 = "" ∧ !blanks then none else some entry := by
  have hcut : Text.cutFirst? '=' (pair entry)
      = some (quote entry.1.toList, quote entry.2.toList) :=
    Text.cutFirst?_append (notMem_quote (by decide)) _
  simp only [readPair?, hcut, quote_form_eq_nil, String.toList_eq_nil_iff, unquote_form_quote,
    String.ofList_toList]

theorem encode_cons {rest : List (String × String)} (h : rest ≠ []) :
    encode (entry :: rest) = pair entry ++ '&' :: encode rest := by
  cases rest with
  | nil => exact absurd rfl h
  | cons => rfl

theorem encode_concat (front : List (String × String)) (name value : String) :
    encode (front ++ [(name, value)]) = encode (front ++ [(name, "")]) ++ quote value.toList := by
  induction front with
  | nil => simp [encode, pair, quote_form_eq_nil.mpr]
  | cons entry rest ih =>
    rw [List.cons_append, List.cons_append, encode_cons (by simp), encode_cons (by simp), ih,
      List.append_assoc, List.cons_append]

theorem pieces_encode (entries : List (String × String)) :
    (Text.pieces '&' (encode entries)).filter (· ≠ []) = entries.map pair := by
  fun_induction encode entries with
  | case1 => rfl
  | case2 entry =>
    rw [Text.pieces_of_notMem (notMem_pair entry)]
    simp [pair_ne_nil]
  | case3 entry rest hrest ih =>
    rw [Text.pieces_append, Text.pieces_of_notMem (notMem_pair entry), List.singleton_append,
      List.filter_cons_of_pos (by simp [pair_ne_nil]), ih, List.map_cons]

theorem decode_append (blanks : Bool) (front text : List Char) :
    decode blanks (front ++ '&' :: text) = decode blanks front ++ decode blanks text := by
  simp only [decode, Text.pieces_append, List.filter_append, List.filterMap_append]

theorem decode_encode (blanks : Bool) (entries : List (String × String)) :
    decode blanks (encode entries) = entries.filter fun entry => blanks || entry.2 ≠ "" := by
  have hread : readPair? blanks ∘ pair
      = Option.guard fun entry => blanks || entry.2 ≠ "" := by
    funext entry
    rw [Function.comp_apply, readPair?_pair]
    cases blanks <;> by_cases h : entry.2 = "" <;> simp [h, Option.guard]
  rw [decode, pieces_encode, List.filterMap_map, hread, List.filterMap_eq_filter]

end Form
end OnAir.Url
