import OnAir.Proofs.Url.Percent
import OnAir.Url.Publish

/-!
# Splitting publish URLs

Nothing but the authority of a URL can be refused, and only for brackets or for characters that fold
to delimiters. A URL put together from a base, a segment and a query is split into them again.
-/

namespace OnAir.Url

-- -----------------------------------------------------------------------------
-- The authority
-- -----------------------------------------------------------------------------

def inAuthority (c : Char) : Bool :=
  c ≠ '/' ∧ c ≠ '?' ∧ c ≠ '#'

def cutAuthority : List Char → List Char × List Char
  | '/' :: '/' :: rest => (rest.takeWhile inAuthority, rest.dropWhile inAuthority)
  | rest => ([], rest)

def authority (text : List Char) : List Char :=
  (cutAuthority (afterScheme (cleaned text))).1

def afterAuthority (text : List Char) : List Char :=
  (cutAuthority (afterScheme (cleaned text))).2

/-- An authority without brackets and without characters that fold to delimiters. -/
structure IsOrdinary (authority : List Char) : Prop where
  opening : '[' ∉ authority
  closing : ']' ∉ authority
  folding : ∀ c ∈ authority, c.toNat ∉ foldingToDelimiters

theorem checkAuthority_ordinary {authority : List Char} (h : IsOrdinary authority) :
    checkAuthority authority = .ok () := by
  simp [checkAuthority, h.opening, h.closing]

theorem checkFolding_ordinary {authority : List Char} (h : IsOrdinary authority) :
    checkFolding authority = .ok () := by
  have hnone : ¬authority.any (fun c => foldingToDelimiters.contains c.toNat) = true := by
    simpa using h.folding
  rw [checkFolding, if_neg hnone]

theorem split_eq (text : List Char) : split text = (do
    checkAuthority (authority text)
    checkFolding (authority text)
    let body := (upTo '#' (afterAuthority text)).1
    return ⟨authority text, (upTo '?' body).1, (upTo '?' body).2⟩) := by
  unfold split authority afterAuthority
  generalize afterScheme (cleaned text) = rest
  dsimp only
  split
  next => rfl
  next hnone =>
    rw [cutAuthority.eq_2 rest hnone]

theorem split_ordinary {text : List Char} (h : IsOrdinary (authority text)) :
    split text = .ok (let body := (upTo '#' (afterAuthority text)).1
      ⟨authority text, (upTo '?' body).1, (upTo '?' body).2⟩) := by
  rw [split_eq, checkAuthority_ordinary h, checkFolding_ordinary h]
  rfl

-- -----------------------------------------------------------------------------
-- Where the authority comes from
-- -----------------------------------------------------------------------------

theorem mem_of_mem_afterScheme {text : List Char} {c : Char} (h : c ∈ afterScheme text) :
    c ∈ text := by
  rw [afterScheme] at h
  split at h
  next scheme rest hcut =>
    split at h
    · rw [Text.eq_append_of_cutFirst? hcut]
      exact List.mem_append_right _ (List.mem_cons_of_mem _ h)
    · exact h
  next => exact h

theorem mem_of_mem_authority {text : List Char} {c : Char} (h : c ∈ authority text) :
    c ∈ text := by
  have hscheme : c ∈ afterScheme (cleaned text) := by
    unfold authority cutAuthority at h
    split at h
    next rest hrest =>
      rw [hrest]
      exact List.mem_cons_of_mem _ (List.mem_cons_of_mem _ ((List.takeWhile_subset _) h))
    next => cases h
  have hcleaned := (List.mem_filter.mp (mem_of_mem_afterScheme hscheme)).1
  exact (List.dropWhile_sublist _).subset hcleaned

theorem toNat_notMem_folding {c : Char} (h : c.toNat < 128) : c.toNat ∉ foldingToDelimiters := by
  have hbound : ∀ n ∈ foldingToDelimiters, 128 ≤ n := by decide
  exact fun hmem => absurd (hbound _ hmem) (Nat.not_le.mpr h)

def IsVisible (c : Char) : Prop :=
  ' ' < c ∧ c.toNat < 128 ∧ c ∉ ['#', '[', ']']

theorem ordinary_of_visible {text : List Char} (h : ∀ c ∈ text, IsVisible c) :
    IsOrdinary (authority text) where
  opening hc := (h _ (mem_of_mem_authority hc)).2.2 (by decide)
  closing hc := (h _ (mem_of_mem_authority hc)).2.2 (by decide)
  folding _ hc := toNat_notMem_folding (h _ (mem_of_mem_authority hc)).2.1

theorem IsPlain.visible {c : Char} (h : IsPlain c) : IsVisible c := by
  refine ⟨h.1, h.2.1, fun hc => h.2.2 ?_⟩
  have hsub : ['#', '[', ']'] ⊆ separators := by decide
  exact hsub hc

theorem visible_append {front rest : List Char} {c : Char} (hfront : ∀ c ∈ front, IsVisible c)
    (hc : IsVisible c) (hrest : ∀ c ∈ rest, IsVisible c) :
    ∀ d ∈ front ++ c :: rest, IsVisible d := by
  simp only [List.forall_mem_append, List.forall_mem_cons]
  exact ⟨hfront, hc, hrest⟩

theorem Form.visible_pair (entry : String × String) : ∀ c ∈ pair entry, IsVisible c :=
  visible_append (fun _ hc => (isPlain_of_mem_quote hc).visible)
    ⟨by decide, by decide, by decide⟩ fun _ hc => (isPlain_of_mem_quote hc).visible

theorem Form.visible_encode (entries : List (String × String)) :
    ∀ c ∈ encode entries, IsVisible c := by
  fun_induction encode entries with
  | case1 =>
    intro c hc
    cases hc
  | case2 entry => exact visible_pair entry
  | case3 entry rest hrest ih =>
    exact visible_append (visible_pair entry) ⟨by decide, by decide, by decide⟩ ih

-- -----------------------------------------------------------------------------
-- URLs put together
-- -----------------------------------------------------------------------------

theorem cleaned_eq {text : List Char} (h : ∀ c ∈ text, ' ' < c) : cleaned text = text := by
  have hfirst : text.dropWhile (· ≤ ' ') = text := by
    cases text with
    | nil => rfl
    | cons c rest =>
      have hc : ¬c ≤ ' ' := Char.not_le.mpr (h c List.mem_cons_self)
      simp [hc]
  rw [cleaned, hfirst, List.filter_eq_self]
  intro c hc
  have hlt := h c hc
  refine decide_eq_true ⟨?_, ?_, ?_⟩ <;> rintro rfl <;> exact absurd hlt (by decide)

/-- Whether or not it is a scheme that stands before a colon, what follows the colon stays. -/
theorem afterScheme_append (scheme tail : List Char) :
    ∃ front, afterScheme (scheme ++ ':' :: tail) = front ++ tail ∧ front ⊆ scheme ++ [':'] := by
  obtain ⟨first, rest, hfirst, hnotMem⟩ :=
    List.eq_append_cons_of_mem (show ':' ∈ scheme ++ [':'] by simp)
  have htext : scheme ++ ':' :: tail = first ++ ':' :: (rest ++ tail) := by
    rw [List.append_cons, hfirst, List.append_assoc, List.cons_append]
  rw [afterScheme, htext, Text.cutFirst?_append hnotMem]
  dsimp only
  split
  · exact ⟨rest, rfl, hfirst ▸ fun c hc => List.mem_append_right _ (List.mem_cons_of_mem _ hc)⟩
  · exact ⟨scheme ++ [':'], by rw [← htext, List.append_assoc, List.singleton_append],
      List.Subset.refl _⟩

/-- Of a text before a slash nothing but the authority is lost, if the text has room for the two
slashes in front of one. -/
theorem cutAuthority_append (front rest : List Char) (h : 2 ≤ front.length) :
    ∃ kept, (cutAuthority (front ++ '/' :: rest)).2 = kept ++ '/' :: rest ∧ kept ⊆ front := by
  obtain ⟨a, b, more, rfl⟩ : ∃ a b more, front = a :: b :: more := by
    match front, h with
    | a :: b :: more, _ => exact ⟨a, b, more, rfl⟩
  rw [List.cons_append, List.cons_append]
  unfold cutAuthority
  split
  next heq =>
    cases heq
    have hslash : ('/' :: rest).dropWhile inAuthority = '/' :: rest := rfl
    dsimp only
    rw [List.dropWhile_append]
    split
    · exact ⟨[], hslash, List.nil_subset _⟩
    · refine ⟨more.dropWhile inAuthority, rfl, fun c hc => ?_⟩
      exact List.mem_cons_of_mem _ (List.mem_cons_of_mem _ ((List.dropWhile_sublist _).subset hc))
  next => exact ⟨a :: b :: more, rfl, List.Subset.refl _⟩

theorem upTo_of_notMem {sep : Char} {text : List Char} (h : sep ∉ text) :
    upTo sep text = (text, []) := by
  rw [upTo, Text.cutFirst?_eq_none h]
  rfl

theorem upTo_append {sep : Char} {before : List Char} (h : sep ∉ before) (after : List Char) :
    upTo sep (before ++ sep :: after) = (before, after) := by
  rw [upTo, Text.cutFirst?_append h]
  rfl

theorem lastSegment_append {segment : List Char} (path : List Char) (hne : segment ≠ [])
    (hslash : '/' ∉ segment) : lastSegment (path ++ '/' :: segment) = segment := by
  have htail : Text.dropTail (· == '/') (path ++ '/' :: segment) = path ++ '/' :: segment := by
    rw [List.append_cons]
    refine Text.dropTail_append _ hne fun c hc => beq_eq_false_iff_ne.mpr ?_
    rintro rfl
    exact hslash hc
  rw [lastSegment, htail, Text.getLastD_pieces path hslash]

/-- A base of publish URLs: a scheme and a place, in printable ASCII, with nothing in it that opens
a query or a fragment, and without brackets. -/
structure IsBase (base : List Char) : Prop where
  shape : ∃ scheme place, base = scheme ++ ':' :: '/' :: '/' :: place
  printable : ∀ c ∈ base, ' ' < c ∧ c.toNat < 127
  plain : ∀ c ∈ base, c ∉ ['?', '#', '[', ']']

theorem IsBase.visible {base : List Char} (h : IsBase base) : ∀ c ∈ base, IsVisible c := by
  intro c hc
  obtain ⟨hblank, hascii⟩ := h.printable c hc
  refine ⟨hblank, Nat.lt_succ_of_lt hascii, fun hmem => h.plain c hc ?_⟩
  exact List.mem_cons_of_mem _ hmem

theorem isBase_live : IsBase "rtmp://ingest.test/live/".toList where
  shape := ⟨"rtmp".toList, "ingest.test/live/".toList, rfl⟩
  printable := by
    have hall : ("rtmp://ingest.test/live/".toList.all fun c => ' ' < c ∧ c.toNat < 127) = true := by
      decide
    simpa only [List.all_eq_true, decide_eq_true_iff] using hall
  plain := by
    have hall : ("rtmp://ingest.test/live/".toList.all (· ∉ ['?', '#', '[', ']'])) = true := by
      decide
    simpa only [List.all_eq_true, decide_eq_true_iff] using hall

/-- Behind the authority of a URL, what follows the base stands behind some of the base. -/
theorem afterAuthority_append {base rest : List Char} (hbase : IsBase base)
    (hrest : ∀ c ∈ rest, ' ' < c) :
    ∃ kept, afterAuthority (base ++ '/' :: rest) = kept ++ '/' :: rest ∧ kept ⊆ base := by
  have hclean : cleaned (base ++ '/' :: rest) = base ++ '/' :: rest := by
    refine cleaned_eq fun c hc => ?_
    rcases List.mem_append.mp hc with hc | hc
    · exact (hbase.printable c hc).1
    · rcases List.mem_cons.mp hc with rfl | hc
      · decide
      · exact hrest c hc
  obtain ⟨scheme, place, rfl⟩ := hbase.shape
  obtain ⟨front, hfront, hscheme⟩ := afterScheme_append scheme ('/' :: '/' :: (place ++ '/' :: rest))
  obtain ⟨kept, hkept, hsub⟩ := cutAuthority_append (front ++ '/' :: '/' :: place) rest
    (by simp only [List.length_append, List.length_cons]; omega)
  refine ⟨kept, ?_, fun c hc => ?_⟩
  · rw [afterAuthority, hclean, ← hkept]
    simp only [List.append_assoc, List.cons_append] at hfront ⊢
    rw [hfront]
  · rw [List.append_cons]
    rcases List.mem_append.mp (hsub hc) with hc | hc
    · exact List.mem_append_left _ (hscheme hc)
    · exact List.mem_append_right _ hc

theorem split_publish {base segment query : List Char} (hbase : IsBase base)
    (hsegment : ∀ c ∈ segment, IsPlain c) (hne : segment ≠ []) (hquery : ∀ c ∈ query, IsVisible c) :
    ∃ parts, split (base ++ '/' :: (segment ++ '?' :: query)) = .ok parts
      ∧ lastSegment parts.path = segment ∧ parts.query = query := by
  have hslash : IsVisible '/' := ⟨by decide, by decide, by decide⟩
  have hrest : ∀ c ∈ segment ++ '?' :: query, IsVisible c :=
    visible_append (fun c hc => (hsegment c hc).visible) ⟨by decide, by decide, by decide⟩ hquery
  have hordinary := ordinary_of_visible (visible_append hbase.visible hslash hrest)
  obtain ⟨kept, hafter, hkept⟩ := afterAuthority_append hbase fun c hc => (hrest c hc).1
  have hfragment : '#' ∉ kept ++ '/' :: (segment ++ '?' :: query) := by
    intro hc
    have hvisible := visible_append (fun c hc => hbase.visible c (hkept hc)) hslash hrest
    exact (hvisible '#' hc).2.2 (by decide)
  have hpath : '?' ∉ kept ++ '/' :: segment := by
    intro hc
    rcases List.mem_append.mp hc with hc | hc
    · exact hbase.plain _ (hkept hc) (by decide)
    · rcases List.mem_cons.mp hc with hc | hc
      · exact absurd hc (by decide)
      · exact (hsegment _ hc).2.2 (by decide)
  have hparts : upTo '?' (kept ++ '/' :: (segment ++ '?' :: query))
      = (kept ++ '/' :: segment, query) := by
    rw [← List.cons_append, ← List.append_assoc]
    exact upTo_append hpath query
  rw [split_ordinary hordinary, hafter, upTo_of_notMem hfragment]
  refine ⟨_, rfl, ?_, ?_⟩
  · simp only [hparts]
    exact lastSegment_append kept hne fun hc => (hsegment _ hc).2.2 (by decide)
  · simp only [hparts]

end OnAir.Url
