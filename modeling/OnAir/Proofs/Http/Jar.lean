import Mathlib.Data.List.TakeWhile
import OnAir.Http.Jar
import OnAir.Proofs.Text.Order
import OnAir.Proofs.Url.Percent

/-!
# What a browser brings back

A jar holds one cookie for each name. The header that carries a jar is cut where its cookies were
joined, so a request shows for each name the cookie in the jar, and nothing that is not in it.
-/

namespace OnAir.Http

-- -----------------------------------------------------------------------------
-- One cookie
-- -----------------------------------------------------------------------------

namespace Cookie

variable {c : Char} {name value : String} {lead : List Char}

theorem isNameChar_spec (h : isNameChar c = true) : Text.isBlank c = false ∧ c ≠ '=' ∧ c ≠ ';' := by
  have hascii : c.toNat < 128 := by
    rw [isNameChar, Bool.or_eq_true] at h
    rcases h with h | h
    · exact Url.toNat_lt_of_isUnreserved (by simp [Url.isUnreserved, h])
    · have hlist : ("!#$%&'*+-.^_\x60|~:".toList.all fun d => decide (d.toNat < 128)) = true := by
        decide +kernel
      exact of_decide_eq_true (List.all_eq_true.mp hlist c (List.contains_iff_mem.mp h))
  have hall : ∀ n < 128, isNameChar (Char.ofNat n) = true →
      Text.isBlank (Char.ofNat n) = false ∧ Char.ofNat n ≠ '=' ∧ Char.ofNat n ≠ ';' := by
    decide +kernel
  have hspec := hall c.toNat hascii
  rw [Char.ofNat_toNat] at hspec
  exact hspec h

theorem isName_spec (h : isName name = true) :
    name.toList ≠ [] ∧ ∀ c ∈ name.toList, isNameChar c = true := by
  rw [isName, Bool.and_eq_true, Bool.and_eq_true, decide_eq_true_eq, List.all_eq_true] at h
  exact ⟨mt String.toList_eq_nil_iff.mp h.1.1, h.1.2⟩

theorem trim_lead {text : List Char} (hlead : ∀ c ∈ lead, Text.isBlank c = true) (hne : text ≠ [])
    (htext : ∀ c ∈ text, Text.isBlank c = false) : Text.trim (lead ++ text) = text := by
  obtain ⟨c, rest, rfl⟩ := List.exists_cons_of_ne_nil hne
  have hdrop : (lead ++ c :: rest).dropWhile Text.isBlank = c :: rest := by
    rw [List.dropWhile_append_of_pos hlead, List.dropWhile_cons_of_neg (by simp [htext])]
  rw [Text.trim, hdrop]
  exact Text.dropTail_append [] hne htext

def shown (value : String) : String :=
  String.ofList (unquoted (Text.trim value.toList))

theorem shown_plain (h : ∀ c ∈ value.toList, Url.isUnreserved c = true) :
    shown value = value := by
  by_cases hempty : value = ""
  · subst hempty
    decide
  have hall : ∀ n < 128, Url.isUnreserved (Char.ofNat n) = true →
      Text.isBlank (Char.ofNat n) = false ∧ Char.ofNat n ≠ '"' := by decide +kernel
  have hspec : ∀ c ∈ value.toList, Text.isBlank c = false ∧ c ≠ '"' := by
    intro c hc
    have hchar := hall c.toNat (Url.toNat_lt_of_isUnreserved (h c hc))
    rw [Char.ofNat_toNat] at hchar
    exact hchar (h c hc)
  have hnil : value.toList ≠ [] := mt String.toList_eq_nil_iff.mp hempty
  have hlead : ∀ c ∈ ([] : List Char), Text.isBlank c = true := nofun
  have htrim : Text.trim value.toList = value.toList :=
    trim_lead hlead hnil fun c hc => (hspec c hc).1
  have hunquoted : unquoted value.toList = value.toList := by
    obtain ⟨c, rest, heq⟩ := List.exists_cons_of_ne_nil hnil
    have hquote := (hspec c (heq ▸ List.mem_cons_self)).2
    have hother : ∀ (d : Char) (more : List Char), c :: rest = '"' :: d :: more → False := by
      rintro d more ⟨⟩
      exact hquote rfl
    rw [heq, unquoted]
    exact hother
  rw [shown, htrim, hunquoted, String.ofList_toList]

def line (cookie : String × String) : List Char :=
  cookie.1.toList ++ '=' :: cookie.2.toList

theorem readPiece?_line {cookie : String × String} (hname : isName cookie.1 = true)
    (hlead : ∀ c ∈ lead, c = ' ') :
    readPiece? (lead ++ line cookie) = some (cookie.1, shown cookie.2) := by
  obtain ⟨hne, hchars⟩ := isName_spec hname
  have hfree : '=' ∉ lead ++ cookie.1.toList := by
    intro hmem
    rcases List.mem_append.mp hmem with hmem | hmem
    · cases hlead _ hmem
    · exact (isNameChar_spec (hchars _ hmem)).2.1 rfl
  have hcut : Text.cutFirst? '=' (lead ++ line cookie)
      = some (lead ++ cookie.1.toList, cookie.2.toList) := by
    rw [line, ← List.append_assoc]
    exact Text.cutFirst?_append hfree _
  have htrim : Text.trim (lead ++ cookie.1.toList) = cookie.1.toList :=
    trim_lead (fun c hc => hlead c hc ▸ rfl) hne fun c hc => (isNameChar_spec (hchars c hc)).1
  simp only [readPiece?, hcut, Option.getD_some, htrim, hne, false_and, if_false,
    String.ofList_toList, shown]

-- -----------------------------------------------------------------------------
-- A header
-- -----------------------------------------------------------------------------

structure Separable (cookie : String × String) : Prop where
  name : isName cookie.1 = true
  value : ';' ∉ cookie.2.toList

theorem Separable.notMem_line {cookie : String × String} (h : Separable cookie) :
    ';' ∉ line cookie := by
  intro hmem
  rcases List.mem_append.mp hmem with hmem | hmem
  · exact (isNameChar_spec ((isName_spec h.name).2 _ hmem)).2.2 rfl
  · exact h.value ((List.mem_cons.mp hmem).resolve_left (by decide))

/-- What stands between semicolons is read as the cookies that were joined, each of which but the
first has a blank before it. -/
theorem filterMap_pieces {cookies : List (String × String)} (hne : cookies ≠ [])
    (h : ∀ cookie ∈ cookies, Separable cookie) (hlead : ∀ c ∈ lead, c = ' ') :
    (Text.pieces ';' (lead ++ [';', ' '].intercalate (cookies.map line))).filterMap readPiece?
      = cookies.map fun cookie => (cookie.1, shown cookie.2) := by
  induction cookies generalizing lead with
  | nil => exact absurd rfl hne
  | cons cookie rest ih =>
    obtain ⟨hcookie, hrest⟩ := List.forall_mem_cons.mp h
    have hfree : ';' ∉ lead ++ line cookie := by
      intro hmem
      rcases List.mem_append.mp hmem with hmem | hmem
      · cases hlead _ hmem
      · exact hcookie.notMem_line hmem
    have hfirst := readPiece?_line hcookie.name hlead
    cases rest with
    | nil =>
      have hjoined : lead ++ [';', ' '].intercalate (List.map line [cookie])
          = lead ++ line cookie := by
        simp [List.intercalate]
      rw [hjoined, Text.pieces_of_notMem hfree, List.filterMap_cons_some hfirst]
      rfl
    | cons next more =>
      have hjoined : lead ++ [';', ' '].intercalate ((cookie :: next :: more).map line)
          = (lead ++ line cookie)
            ++ ';' :: ([' '] ++ [';', ' '].intercalate ((next :: more).map line)) := by
        simp [List.intercalate_cons_cons]
      rw [hjoined, Text.pieces_append, Text.pieces_of_notMem hfree, List.singleton_append,
        List.filterMap_cons_some hfirst,
        ih (List.cons_ne_nil _ _) hrest fun c hc => List.mem_singleton.mp hc]
      rfl

theorem read_intercalate {cookies : List (String × String)} (hne : cookies ≠ [])
    (h : ∀ cookie ∈ cookies, Separable cookie) :
    read ("; ".intercalate (cookies.map fun (name, value) => name ++ "=" ++ value))
      = cookies.map fun cookie => (cookie.1, shown cookie.2) := by
  have htext : ("; ".intercalate (cookies.map fun (name, value) => name ++ "=" ++ value)).toList
      = [] ++ [';', ' '].intercalate (cookies.map line) := by
    rw [String.toList_intercalate, List.map_map, List.nil_append]
    congr 1
    refine List.map_congr_left fun cookie _ => ?_
    simp [line]
  rw [read, htext]
  exact filterMap_pieces hne h nofun

end Cookie

-- -----------------------------------------------------------------------------
-- Lookups
-- -----------------------------------------------------------------------------

section
variable {entries other : List (String × String)} {name value : String}

theorem lookup_eq_some_iff_mem (h : (entries.map (·.1)).Nodup) :
    entries.lookup name = some value ↔ (name, value) ∈ entries := by
  rw [List.lookup_eq_some_iff]
  constructor
  · rintro ⟨before, after, rfl, -⟩
    simp
  · intro hmem
    obtain ⟨before, after, rfl⟩ := List.append_of_mem hmem
    refine ⟨before, after, rfl, fun entry hentry => ?_⟩
    rw [List.map_append, List.map_cons, List.nodup_append] at h
    simpa using (h.2.2 entry.1 (List.mem_map_of_mem hentry) name List.mem_cons_self).symm

theorem lookup_perm (h : (entries.map (·.1)).Nodup) (hperm : other.Perm entries) (name : String) :
    other.lookup name = entries.lookup name := by
  have h' : (other.map (·.1)).Nodup := (hperm.map _).nodup_iff.mpr h
  refine Option.ext fun value => ?_
  rw [lookup_eq_some_iff_mem h, lookup_eq_some_iff_mem h', hperm.mem_iff]

theorem lookup_map_snd (f : String → String) (entries : List (String × String)) (name : String) :
    (entries.map fun entry => (entry.1, f entry.2)).lookup name = (entries.lookup name).map f := by
  induction entries with
  | nil => rfl
  | cons entry rest ih =>
    rw [List.map_cons, List.lookup_cons, List.lookup_cons, ih]
    cases name == entry.1 <;> rfl

end

-- -----------------------------------------------------------------------------
-- Jars
-- -----------------------------------------------------------------------------

namespace Jar

open Cookie (Separable)

/-- A jar whose header can be taken apart: each name once, and all cookies separable. -/
structure Sound (jar : Jar) : Prop where
  nodup : (jar.cookies.map (·.1)).Nodup
  separable : ∀ cookie ∈ jar.cookies, Separable cookie

section
variable {jar : Jar} {request : Request} {name value : String}

theorem sound_empty : Sound .empty :=
  ⟨List.nodup_nil, nofun⟩

theorem Sound.remove (h : jar.Sound) (name : String) : (jar.remove name).Sound where
  nodup := h.nodup.sublist (List.filter_sublist.map _)
  separable cookie hcookie := h.separable cookie (List.mem_filter.mp hcookie).1

theorem Sound.put (h : jar.Sound) (hcookie : Separable (name, value)) :
    (jar.put name value).Sound where
  nodup := by
    have hother : ∀ other ∈ (jar.remove name).cookies.map (·.1), other ≠ name := by
      intro other hother
      obtain ⟨cookie, hcookie, rfl⟩ := List.mem_map.mp hother
      exact of_decide_eq_true (List.mem_filter.mp hcookie).2
    rw [Jar.put, List.map_append, List.nodup_append]
    exact ⟨(h.remove name).nodup, List.nodup_cons.mpr ⟨nofun, .nil⟩, fun other hmem _ hlast =>
      List.mem_singleton.mp hlast ▸ hother other hmem⟩
  separable cookie hmem := by
    rcases List.mem_append.mp hmem with hmem | hmem
    · exact (h.remove name).separable cookie hmem
    · exact List.mem_singleton.mp hmem ▸ hcookie

theorem get?_remove (jar : Jar) (gone name : String) :
    (jar.remove gone).get? name = if name = gone then none else jar.get? name := by
  simp only [get?, remove]
  induction jar.cookies with
  | nil => simp
  | cons cookie rest ih =>
    by_cases hgone : cookie.1 = gone
    · rw [List.filter_cons_of_neg (by simp [hgone]), ih, List.lookup_cons]
      by_cases hname : name = gone
      · simp [hname]
      · have hne : (name == cookie.1) = false := by simp [hgone, hname]
        simp only [hne]
    · rw [List.filter_cons_of_pos (by simp [hgone]), List.lookup_cons, List.lookup_cons, ih]
      by_cases hname : name = cookie.1
      · simp [hname, hgone]
      · have hne : (name == cookie.1) = false := by simp [hname]
        simp only [hne]

theorem get?_put (jar : Jar) (set value name : String) :
    (jar.put set value).get? name = if name = set then some value else jar.get? name := by
  have happend : (jar.put set value).get? name
      = ((jar.remove set).get? name).or ([(set, value)].lookup name) :=
    List.lookup_append
  rw [happend, get?_remove]
  by_cases hname : name = set
  · simp [hname]
  · have hne : (name == set) = false := by simp [hname]
    simp [hname, List.lookup_cons, hne]

theorem get?_applyAll_of_gone (jar : Jar) {lines : List SetCookie}
    (hgone : ∀ line ∈ lines, line.maxAge = 0) (name : String) :
    (jar.applyAll lines).get? name = none ∨ (jar.applyAll lines).get? name = jar.get? name := by
  induction lines generalizing jar with
  | nil => exact .inr rfl
  | cons line rest ih =>
    obtain ⟨hline, hrest⟩ := List.forall_mem_cons.mp hgone
    have happly : jar.apply line = jar.remove line.name := if_pos hline
    rw [applyAll, List.foldl_cons, happly]
    rcases ih (jar.remove line.name) hrest with hnone | hsame
    · exact .inl hnone
    · rw [get?_remove] at hsame
      split at hsame
      · exact .inl hsame
      · exact .inr hsame

theorem Sound.applyAll_of_gone (h : jar.Sound) {lines : List SetCookie}
    (hgone : ∀ line ∈ lines, line.maxAge = 0) : (jar.applyAll lines).Sound := by
  induction lines generalizing jar with
  | nil => exact h
  | cons line rest ih =>
    obtain ⟨hline, hrest⟩ := List.forall_mem_cons.mp hgone
    have happly : jar.apply line = jar.remove line.name := if_pos hline
    rw [applyAll, List.foldl_cons, happly]
    exact ih (h.remove line.name) hrest

-- -----------------------------------------------------------------------------
-- Requests
-- -----------------------------------------------------------------------------

def Carried (jar : Jar) (request : Request) : Prop :=
  request.headers.filter (·.1 = "cookie") = jar.header?.toList.map ("cookie", ·)

/-- A request shows the cookie of a name that is in the jar, and none if there is none. -/
theorem Carried.cookie? (h : jar.Carried request) (hsound : jar.Sound) (name : String) :
    request.cookie? name = (jar.get? name).map Cookie.shown := by
  simp only [Request.cookie?, show request.headers.filter (·.1 = "cookie") = _ from h, header?, get?]
  by_cases hempty : jar.cookies = []
  · simp [hempty]
  have hperm : (Text.sortBy (·.1) jar.cookies).Perm jar.cookies := List.mergeSort_perm _ _
  have hne : Text.sortBy (·.1) jar.cookies ≠ [] := by
    intro hnil
    rw [hnil] at hperm
    exact hempty hperm.nil_eq.symm
  have hread := Cookie.read_intercalate hne fun cookie hcookie =>
    hsound.separable cookie (Text.mem_sortBy.mp hcookie)
  have hisEmpty : jar.cookies.isEmpty = false := by simpa using hempty
  simp only [hisEmpty, Bool.false_eq_true, if_false, Option.toList_some, List.map_cons, List.map_nil,
    List.flatMap_cons, List.flatMap_nil, List.append_nil, hread]
  rw [← List.map_reverse, lookup_map_snd, lookup_perm hsound.nodup]
  exact (List.reverse_perm _).trans hperm

end
end Jar
end OnAir.Http
