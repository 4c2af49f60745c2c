import OnAir.Proofs.Json.Scan
import OnAir.Proofs.Text.Utf8

/-!
# JSON comes back as it was written

A value is exact if nothing of it is lost in writing: it holds no doubles, and no object holds a key
twice. The reader takes the text of an exact value in one stretch, whatever containers are open
around it, and has the value in hand afterwards. Three things are asked of the value besides: its
strings are text, its integers keep to the digit limit and its containers to the depth that is left.
-/

namespace OnAir.Json

-- -----------------------------------------------------------------------------
-- Exact values
-- -----------------------------------------------------------------------------

mutual

def depth : Json → Nat
  | .arr items => itemsDepth items + 1
  | .obj fields => fieldsDepth fields + 1
  | _ => 0

def itemsDepth : List Json → Nat
  | [] => 0
  | item :: rest => max (depth item) (itemsDepth rest)

def fieldsDepth : List (RawText × Json) → Nat
  | [] => 0
  | (_, value) :: rest => max (depth value) (fieldsDepth rest)

end

mutual

def digits : Json → Nat
  | .int n => (Integer.natText n.natAbs).length
  | .arr items => itemsDigits items
  | .obj fields => fieldsDigits fields
  | _ => 0

def itemsDigits : List Json → Nat
  | [] => 0
  | item :: rest => max (digits item) (itemsDigits rest)

def fieldsDigits : List (RawText × Json) → Nat
  | [] => 0
  | (_, value) :: rest => max (digits value) (fieldsDigits rest)

end

mutual

def isExact : Json → Bool
  | .float _ => false
  | .arr items => exactItems items
  | .obj fields => exactFields fields
  | _ => true

def exactItems : List Json → Bool
  | [] => true
  | item :: rest => isExact item && exactItems rest

def exactFields : List (RawText × Json) → Bool
  | [] => true
  | (key, value) :: rest =>
    isExact value && !(rest.map Prod.fst).contains key && exactFields rest

end

/-- What a value must keep to in order to be read as it is, with `room` for containers. -/
structure Readable (room : Nat) (value : Json) : Prop where
  exact : value.isExact = true
  proper : value.isBroken = false
  digits : value.digits ≤ Integer.digitLimit
  depth : value.depth ≤ room

section
variable {room : Nat}

theorem Readable.arr_room {items : List Json} (h : Readable room (.arr items)) :
    ∃ r, room = r + 1 :=
  ⟨room - 1, by have := h.depth; simp only [Json.depth] at this; omega⟩

theorem Readable.obj_room {fields : List (RawText × Json)} (h : Readable room (.obj fields)) :
    ∃ r, room = r + 1 :=
  ⟨room - 1, by have := h.depth; simp only [Json.depth] at this; omega⟩

theorem Readable.arr_cons {item : Json} {rest : List Json}
    (h : Readable (room + 1) (.arr (item :: rest))) :
    Readable room item ∧ Readable (room + 1) (.arr rest) := by
  obtain ⟨hexact, hproper, hdigits, hdepth⟩ := h
  simp only [isExact, exactItems, Bool.and_eq_true] at hexact
  simp only [isBroken, brokenItems, Bool.or_eq_false_iff] at hproper
  simp only [Json.digits, itemsDigits] at hdigits
  simp only [Json.depth, itemsDepth] at hdepth
  refine ⟨⟨hexact.1, hproper.1, by omega, by omega⟩, ⟨hexact.2, hproper.2, ?_, ?_⟩⟩
  · simp only [Json.digits]; omega
  · simp only [Json.depth]; omega

theorem Readable.obj_cons {key : RawText} {value : Json} {rest : List (RawText × Json)}
    (h : Readable (room + 1) (.obj ((key, value) :: rest))) :
    (∃ s, key = .text s) ∧ key ∉ rest.map Prod.fst ∧ Readable room value
      ∧ Readable (room + 1) (.obj rest) := by
  obtain ⟨hexact, hproper, hdigits, hdepth⟩ := h
  simp only [isExact, exactFields, Bool.and_eq_true, Bool.not_eq_true'] at hexact
  simp only [isBroken, brokenFields, Bool.or_eq_false_iff] at hproper
  simp only [Json.digits, fieldsDigits] at hdigits
  simp only [Json.depth, fieldsDepth] at hdepth
  refine ⟨?_, ?_, ⟨hexact.1.1, hproper.1.2, by omega, by omega⟩, ⟨hexact.2, hproper.2, ?_, ?_⟩⟩
  · cases key with
    | text s => exact ⟨s, rfl⟩
    | broken codes => simp [RawText.text?] at hproper
  · simpa using hexact.1.2
  · simp only [Json.digits]; omega
  · simp only [Json.depth]; omega

end

theorem put_of_notMem {fields : List (RawText × Json)} {key : RawText}
    (h : key ∉ fields.map Prod.fst) (value : Json) :
    put fields key value = fields ++ [(key, value)] := by
  induction fields with
  | nil => rfl
  | cons field rest ih =>
    simp only [List.map_cons, List.mem_cons, not_or] at h
    simp [put, Ne.symm h.1, ih h.2]

theorem object_eq {fields : List (RawText × Json)} (h : exactFields fields = true) :
    object fields = .obj fields := by
  suffices hgo : ∀ done : List (RawText × Json),
      (∀ key ∈ fields.map Prod.fst, key ∉ done.map Prod.fst) →
        fields.foldl (fun fields field => put fields field.1 field.2) done = done ++ fields by
    exact congrArg Json.obj ((hgo [] (by simp)).trans (List.nil_append fields))
  induction fields with
  | nil => simp
  | cons field rest ih =>
    obtain ⟨key, value⟩ := field
    intro done hdone
    simp only [exactFields, Bool.and_eq_true, Bool.not_eq_true', List.contains_eq_mem,
      decide_eq_false_iff_not] at h
    simp only [List.foldl_cons]
    rw [put_of_notMem (hdone key (by simp)) value, ih h.2, List.append_assoc]
    · rfl
    · intro k hk
      have hne : k ≠ key := fun he => h.1.2 (he ▸ hk)
      simpa [hne] using hdone k (by simp [hk])

-- -----------------------------------------------------------------------------
-- Tokens
-- -----------------------------------------------------------------------------

theorem run_nil {rules : Rules} {m : Machine} : run rules m [] = m.finish := by
  rw [run]
  split
  · rfl
  · next he => cases he

theorem run_cons {rules : Rules} {m : Machine} {c : Char} {rest : List Char}
    (h : isSpace c = false) :
    run rules m (c :: rest) = match m.step rules c rest with
      | .error stop => .error stop
      | .ok (m', rest') => run rules m' rest' := by
  have hs : (c :: rest).dropWhile isSpace = c :: rest := by simp [h]
  rw [run]
  split
  · next he => rw [hs] at he; cases he
  · next c' rest' he =>
    rw [hs] at he
    cases he
    split <;> simp_all

theorem isSpace_of_isDigit {c : Char} (h : isDigit c = true) : isSpace c = false := by
  cases hs : isSpace c with
  | false => rfl
  | true =>
    simp only [isSpace, Bool.or_eq_true, beq_iff_eq] at hs
    rcases hs with ((rfl | rfl) | rfl) | rfl <;> cases h

theorem takeValue_scalar {rules : Rules} {stack : List Frame} {c : Char} {rest : List Char}
    (hquote : c ≠ '"') (harray : c ≠ '[') (hobject : c ≠ '{') :
    takeValue rules stack c rest
      = (scanScalar (c :: rest)).map fun (value, rest) => (⟨stack, .after value⟩, rest) := by
  simp [takeValue, hquote, harray, hobject]

theorem scanScalar_number {c : Char} {rest : List Char}
    (h : isDigit c = true ∨ c = '-' ∧ ∀ d ∈ rest.head?, isDigit d = true) :
    scanScalar (c :: rest) = scanNumber (c :: rest) := by
  rcases h with h | ⟨rfl, h⟩
  · have hne : ∀ w, isDigit w = false → w ≠ c := fun w hw he => by rw [he, h] at hw; cases hw
    simp [scanScalar, wordValues, Text.after?, hne 'n' rfl, hne 't' rfl, hne 'f' rfl, hne 'N' rfl,
      hne 'I' rfl, hne '-' rfl]
  · cases rest with
    | nil => simp [scanScalar, wordValues, Text.after?]
    | cons d rest =>
      have hd : 'I' ≠ d := fun he => by have := h d rfl; rw [← he] at this; cases this
      simp [scanScalar, wordValues, Text.after?, hd]

theorem scanScalar_int {n : Int} {rest : List Char} (hrest : Closes rest)
    (h : (Integer.natText n.natAbs).length ≤ Integer.digitLimit) :
    scanScalar (Integer.text n ++ rest) = .ok (.int n, rest) := by
  obtain ⟨d, ds, hds⟩ := List.exists_cons_of_ne_nil
    (show Integer.natText n.natAbs ≠ [] from Nat.toDigits_ne_nil)
  have hd : isDigit d = true := isDigit_of_mem_natText (hds ▸ List.mem_cons_self)
  unfold Integer.text
  split
  next hneg =>
    rw [List.cons_append, scanScalar_number (.inr ⟨rfl, by simp [hds, hd]⟩),
      scanNumber_natText hrest h (show splitMinus ('-' :: _) = (true, _) from rfl)]
    have habs : -(n.natAbs : Int) = n := by omega
    rw [if_pos rfl, habs]
  next hpos =>
    have hsign : splitMinus (Integer.natText n.natAbs ++ rest)
        = (false, Integer.natText n.natAbs ++ rest) := by
      rw [hds, List.cons_append]
      unfold splitMinus
      split
      · next he =>
        cases he
        cases hd
      · rfl
    have hnum := scanNumber_natText hrest h hsign
    rw [hds] at hnum ⊢
    rw [List.cons_append, scanScalar_number (.inl hd)]
    rw [List.cons_append] at hnum
    rw [hnum]
    have habs : (n.natAbs : Int) = n := by omega
    rw [if_neg Bool.false_ne_true, habs]

-- -----------------------------------------------------------------------------
-- Values
-- -----------------------------------------------------------------------------

section
variable {limit : Nat} {layout : Double.Layout} {stack : List Frame}

theorem run_scalar {c : Char} {tail rest : List Char} {value : Json} (hspace : isSpace c = false)
    (hquote : c ≠ '"') (harray : c ≠ '[') (hobject : c ≠ '{')
    (h : scanScalar (c :: tail) = .ok (value, rest)) :
    run ⟨limit, []⟩ ⟨stack, .value⟩ (c :: tail) = run ⟨limit, []⟩ ⟨stack, .after value⟩ rest := by
  simp [run_cons hspace, Machine.step, takeValue_scalar hquote harray hobject, h, Except.map]

theorem stringText_text (s : String) (rest : List Char) :
    stringText (.text s) ++ rest = '"' :: (s.toList.flatMap stringChar ++ '"' :: rest) := by
  simp [stringText]

theorem run_str (s : String) (rest : List Char) :
    run ⟨limit, []⟩ ⟨stack, .value⟩ (stringText (.text s) ++ rest)
      = run ⟨limit, []⟩ ⟨stack, .after (.str (.text s))⟩ rest := by
  simp [stringText_text, run_cons (c := '"') rfl, Machine.step, takeValue, scanString_flatMap,
    Except.map, RawText.ofCodes_toNat]

theorem run_name (done : List (RawText × Json)) (s : String) (rest : List Char) :
    run ⟨limit, []⟩ ⟨stack, .name done⟩ (stringText (.text s) ++ ':' :: rest)
      = run ⟨limit, []⟩ ⟨.members done (.text s) :: stack, .value⟩ rest := by
  simp [stringText_text, run_cons (c := '"') rfl, run_cons (c := ':') rfl, Machine.step, takeName,
    scanString_flatMap, Except.map, RawText.ofCodes_toNat]

theorem run_firstName (s : String) (rest : List Char) :
    run ⟨limit, []⟩ ⟨stack, .firstName []⟩ (stringText (.text s) ++ rest)
      = run ⟨limit, []⟩ ⟨stack, .name []⟩ (stringText (.text s) ++ rest) := by
  simp [stringText_text, run_cons (c := '"') rfl, Machine.step]

theorem run_open_array (h : stack.length < limit) (rest : List Char) :
    run ⟨limit, []⟩ ⟨stack, .value⟩ ('[' :: rest)
      = run ⟨limit, []⟩ ⟨.items [] :: stack, .firstItem⟩ rest := by
  simp [run_cons (c := '[') rfl, Machine.step, takeValue, Nat.not_le.mpr h]

theorem run_open_object (h : stack.length < limit) (rest : List Char) :
    run ⟨limit, []⟩ ⟨stack, .value⟩ ('{' :: rest)
      = run ⟨limit, []⟩ ⟨stack, .firstName []⟩ rest := by
  simp [run_cons (c := '{') rfl, Machine.step, takeValue, Nat.not_le.mpr h]

theorem text_head (layout : Double.Layout) {room : Nat} {value : Json} (h : Readable room value) :
    ∃ c tail, text layout value = c :: tail ∧ isSpace c = false ∧ c ≠ ']' := by
  cases value with
  | null => exact ⟨'n', _, rfl, rfl, by decide⟩
  | bool b => cases b with
    | false => exact ⟨'f', _, rfl, rfl, by decide⟩
    | true => exact ⟨'t', _, rfl, rfl, by decide⟩
  | int n =>
    rw [text]
    unfold Integer.text
    split
    · exact ⟨'-', _, rfl, rfl, by decide⟩
    · obtain ⟨d, ds, hds⟩ := List.exists_cons_of_ne_nil
        (show Integer.natText n.natAbs ≠ [] from Nat.toDigits_ne_nil)
      have hd : isDigit d = true := isDigit_of_mem_natText (hds ▸ List.mem_cons_self)
      exact ⟨d, ds, hds, isSpace_of_isDigit hd, fun he => by rw [he] at hd; cases hd⟩
  | float x => exact absurd h.exact (by simp [isExact])
  | str s => cases s with
    | text s => exact ⟨'"', _, rfl, rfl, by decide⟩
    | broken codes => exact ⟨'"', _, rfl, rfl, by decide⟩
  | arr items => exact ⟨'[', _, rfl, rfl, by decide⟩
  | obj fields => exact ⟨'{', _, rfl, rfl, by decide⟩

theorem run_firstItem {room : Nat} {value : Json} (h : Readable room value) (rest : List Char) :
    run ⟨limit, []⟩ ⟨.items [] :: stack, .firstItem⟩ (text layout value ++ rest)
      = run ⟨limit, []⟩ ⟨.items [] :: stack, .value⟩ (text layout value ++ rest) := by
  obtain ⟨c, tail, htext, hspace, hclose⟩ := text_head layout h
  have hstep : Machine.step ⟨limit, []⟩ ⟨.items [] :: stack, .firstItem⟩ c (tail ++ rest)
      = Machine.step ⟨limit, []⟩ ⟨.items [] :: stack, .value⟩ c (tail ++ rest) := by
    simp [Machine.step, hclose]
  rw [htext, List.cons_append, run_cons hspace, run_cons hspace, hstep]

theorem run_int {n : Int} {rest : List Char} (hrest : Closes rest)
    (h : (Integer.natText n.natAbs).length ≤ Integer.digitLimit) :
    run ⟨limit, []⟩ ⟨stack, .value⟩ (Integer.text n ++ rest)
      = run ⟨limit, []⟩ ⟨stack, .after (.int n)⟩ rest := by
  have hscan := scanScalar_int hrest h
  unfold Integer.text at hscan ⊢
  split
  next hneg =>
    rw [if_pos hneg, List.cons_append] at hscan
    exact run_scalar rfl (by decide) (by decide) (by decide) hscan
  next hpos =>
    rw [if_neg hpos] at hscan
    obtain ⟨d, ds, hds⟩ := List.exists_cons_of_ne_nil
      (show Integer.natText n.natAbs ≠ [] from Nat.toDigits_ne_nil)
    have hd : isDigit d = true := isDigit_of_mem_natText (hds ▸ List.mem_cons_self)
    rw [hds, List.cons_append] at hscan ⊢
    refine run_scalar (isSpace_of_isDigit hd) ?_ ?_ ?_ hscan <;>
      (intro he; rw [he] at hd; cases hd)

end

theorem closes_cons {c : Char} (h : c = ',' ∨ c = ']' ∨ c = '}') (rest : List Char) :
    Closes (c :: rest) := by
  intro d hd
  cases hd
  exact h

section
variable {limit : Nat} {layout : Double.Layout}

mutual

theorem run_text : ∀ (value : Json) {room : Nat} {stack : List Frame} {rest : List Char},
    Readable room value → stack.length + room ≤ limit → Closes rest →
      run ⟨limit, []⟩ ⟨stack, .value⟩ (text layout value ++ rest)
        = run ⟨limit, []⟩ ⟨stack, .after value⟩ rest
  | .null, _, _, _, _, _, _ => run_scalar rfl (by decide) (by decide) (by decide) rfl
  | .bool false, _, _, _, _, _, _ => run_scalar rfl (by decide) (by decide) (by decide) rfl
  | .bool true, _, _, _, _, _, _ => run_scalar rfl (by decide) (by decide) (by decide) rfl
  | .int n, _, _, _, h, _, hrest => run_int hrest h.digits
  | .float x, _, _, _, h, _, _ => absurd h.exact (by simp [isExact])
  | .str (.text s), _, _, _, _, _, _ => run_str s _
  | .str (.broken codes), _, _, _, h, _, _ => absurd h.proper (by simp [isBroken, RawText.text?])
  | .arr [], _, stack, rest, h, hroom, _ => by
    obtain ⟨r, rfl⟩ := h.arr_room
    simp only [text, itemsText, List.cons_append, List.append_assoc]
    rw [run_open_array (by omega), List.nil_append, List.nil_append, run_cons (c := ']') rfl]
    rfl
  | .arr (item :: items), _, stack, rest, h, hroom, _ => by
    obtain ⟨r, rfl⟩ := h.arr_room
    have hfirst : ∃ tail, itemsText layout (item :: items) = text layout item ++ tail := by
      cases items with
      | nil => exact ⟨[], (List.append_nil _).symm⟩
      | cons next items => exact ⟨_, rfl⟩
    obtain ⟨tail, htail⟩ := hfirst
    have hitems : run ⟨limit, []⟩ ⟨.items [] :: stack, .value⟩ (_ ++ ']' :: rest) = _ :=
      run_items items item h (by omega)
    simp only [text, List.cons_append, List.append_assoc]
    rw [run_open_array (by omega), htail, List.append_assoc, run_firstItem h.arr_cons.1,
      ← List.append_assoc, ← htail]
    exact hitems
  | .obj [], _, stack, rest, h, hroom, _ => by
    obtain ⟨r, rfl⟩ := h.obj_room
    simp only [text, fieldsText, List.cons_append, List.append_assoc]
    rw [run_open_object (by omega), List.nil_append, List.nil_append, run_cons (c := '}') rfl]
    rfl
  | .obj ((key, value) :: fields), _, stack, rest, h, hroom, _ => by
    obtain ⟨r, rfl⟩ := h.obj_room
    obtain ⟨⟨s, rfl⟩, -, -, -⟩ := h.obj_cons
    have hfirst : ∃ tail, fieldsText layout ((.text s, value) :: fields)
        = stringText (.text s) ++ tail := by
      cases fields with
      | nil => exact ⟨_, rfl⟩
      | cons next fields => exact ⟨_, List.append_assoc ..⟩
    obtain ⟨tail, htail⟩ := hfirst
    have hfields : run ⟨limit, []⟩ ⟨stack, .name []⟩ (_ ++ '}' :: rest) = _ :=
      run_fields fields (.text s) value h (by omega)
    rw [List.reverse_nil, List.nil_append, object_eq h.exact] at hfields
    simp only [text, List.cons_append, List.append_assoc]
    rw [run_open_object (by omega), htail, List.append_assoc, run_firstName, ← List.append_assoc,
      ← htail]
    exact hfields
termination_by value => sizeOf value

theorem run_items : ∀ (items : List Json) (item : Json) {room : Nat} {stack : List Frame}
    {done : List Json} {rest : List Char}, Readable (room + 1) (.arr (item :: items)) →
      stack.length + room + 1 ≤ limit →
      run ⟨limit, []⟩ ⟨.items done :: stack, .value⟩
          (itemsText layout (item :: items) ++ ']' :: rest)
        = run ⟨limit, []⟩ ⟨stack, .after (.arr (done.reverse ++ item :: items))⟩ rest
  | [], item, _, stack, done, rest, h, hroom => by
    have hclose := closes_cons (c := ']') (by simp) rest
    rw [itemsText, run_text item h.arr_cons.1 (by simp; omega) hclose, run_cons (c := ']') rfl]
    simp [Machine.step]
  | next :: items, item, _, stack, done, rest, h, hroom => by
    have hcomma := closes_cons (c := ',') (by simp) (itemsText layout (next :: items) ++ ']' :: rest)
    simp only [itemsText, List.append_assoc, List.cons_append]
    rw [run_text item h.arr_cons.1 (by simp; omega) hcomma, run_cons (c := ',') rfl]
    simp only [Machine.step, ↓reduceIte]
    rw [run_items items next h.arr_cons.2 hroom]
    simp
termination_by items item => sizeOf item + sizeOf items

theorem run_fields : ∀ (fields : List (RawText × Json)) (key : RawText) (value : Json) {room : Nat}
    {stack : List Frame} {done : List (RawText × Json)} {rest : List Char},
      Readable (room + 1) (.obj ((key, value) :: fields)) → stack.length + room + 1 ≤ limit →
      run ⟨limit, []⟩ ⟨stack, .name done⟩
          (fieldsText layout ((key, value) :: fields) ++ '}' :: rest)
        = run ⟨limit, []⟩ ⟨stack, .after (object (done.reverse ++ (key, value) :: fields))⟩ rest
  | [], key, value, _, stack, done, rest, h, hroom => by
    obtain ⟨⟨s, rfl⟩, -, hvalue, -⟩ := h.obj_cons
    have hclose := closes_cons (c := '}') (by simp) rest
    simp only [fieldsText, List.append_assoc, List.cons_append]
    rw [run_name, run_text value hvalue (by simp; omega) hclose, run_cons (c := '}') rfl]
    simp [Machine.step]
  | (nextKey, nextValue) :: fields, key, value, _, stack, done, rest, h, hroom => by
    obtain ⟨⟨s, rfl⟩, -, hvalue, hrest⟩ := h.obj_cons
    have hcomma := closes_cons (c := ',') (by simp)
      (fieldsText layout ((nextKey, nextValue) :: fields) ++ '}' :: rest)
    simp only [fieldsText, List.append_assoc, List.cons_append]
    rw [run_name, run_text value hvalue (by simp; omega) hcomma, run_cons (c := ',') rfl]
    simp only [Machine.step, ↓reduceIte]
    rw [run_fields fields nextKey nextValue hrest hroom]
    simp
termination_by fields _ value => sizeOf value + sizeOf fields

end
end

section
variable {layout : Double.Layout} {value : Json}

/-- A document that keeps to the limits of the reader is read as the value it was written for. -/
theorem readRaw_text (h : Readable depthLimit value) :
    readRaw [] (text layout value) = .ok value := by
  have hrun : run ⟨depthLimit, []⟩ ⟨[], .value⟩ (text layout value ++ []) = _ :=
    run_text value h (by simp) (by intro d hd; cases hd)
  rw [List.append_nil] at hrun
  rw [readRaw, hrun, run_nil]
  rfl

theorem read_text (h : Readable depthLimit value) {c : Char} {tail : List Char}
    (hhead : text layout value = c :: tail) (hmark : c ≠ '\uFEFF') :
    read (text layout value) = .ok value := by
  rw [read, if_neg (by simp [hhead, hmark]), readRaw_text h]

theorem readBytes_text (h : Readable depthLimit value) {c d : Char} {tail : List Char}
    (hhead : text layout value = c :: d :: tail) (hc : 0 < c.toNat ∧ c.toNat < 128)
    (hd : 0 < d.toNat ∧ d.toNat < 128) :
    readBytes (Utf8.encode (text layout value)) = .ok value := by
  have hdocument : Encoding.document? (Utf8.encode (text layout value))
      = some (text layout value, []) := by
    rw [hhead]
    exact Encoding.document?_encode hc.1 hc.2 hd.1 hd.2 tail
  simp only [readBytes, hdocument, readRaw_text h]

theorem text_obj (layout : Double.Layout) (field : RawText × Json) (rest : List (RawText × Json)) :
    ∃ tail, text layout (.obj (field :: rest)) = '\x7b' :: '"' :: tail := by
  obtain ⟨key, value⟩ := field
  cases key <;> cases rest <;> exact ⟨_, rfl⟩

theorem readBytes_obj {field : RawText × Json} {rest : List (RawText × Json)}
    (h : Readable depthLimit (.obj (field :: rest))) :
    readBytes (Utf8.encode (text layout (.obj (field :: rest)))) = .ok (.obj (field :: rest)) := by
  obtain ⟨tail, htext⟩ := text_obj layout field rest
  exact readBytes_text h htext (by decide) (by decide)

end
end OnAir.Json
