import OnAir.Proofs.Channel.Outcome
import OnAir.Proofs.Json.Scan
import OnAir.Proofs.Text.Cut

/-!
# Tags of changes

A tag tells how many rows a change has touched by its last word, if that spells a number in one of
the many ways to spell one. A number in plain digits is read back, whatever stands in front of its
space, and every tag is read as some number. So a switch is reported missing just when the tag of its
change tells of no row.
-/

namespace OnAir

-- -----------------------------------------------------------------------------
-- Plain digits
-- -----------------------------------------------------------------------------

namespace Integer

section
variable {c : Char} (h : Json.isDigit c = true)
include h

theorem isDigit_spec : 48 ≤ c.toNat ∧ c.toNat ≤ 57 := by
  rw [Json.isDigit, Bool.and_eq_true, decide_eq_true_eq, decide_eq_true_eq] at h
  exact h

theorem digit?_of_isDigit : Text.digit? c = some (c.toNat - 48) := by
  have hbounds : '0' ≤ c ∧ c ≤ '9' := isDigit_spec h
  have hascii : c.toNat < 128 := by
    have := (isDigit_spec h).2
    omega
  rw [Text.digit?, if_pos hascii, if_pos hbounds]

theorem isBlank_of_isDigit : isBlank c = false := by
  obtain ⟨hlow, hhigh⟩ := isDigit_spec h
  simp [isBlank, Text.isBlank]
  omega

end

section
variable {text : List Char} (h : ∀ c ∈ text, Json.isDigit c = true)
include h

theorem digits?_plain : digits? text = some (text.map fun c => c.toNat - 48, []) := by
  induction text with
  | nil => rfl
  | cons c rest ih =>
    obtain ⟨hc, hrest⟩ := List.forall_mem_cons.mp h
    cases rest with
    | nil => simp [digits?, digit?_of_isDigit hc]
    | cons next rest =>
      have hnext : next ≠ '_' := by
        rintro rfl
        cases hrest '_' List.mem_cons_self
      rw [digits?, digit?_of_isDigit hc]
      · simp [ih hrest]
      · simpa using hnext

theorem trim_plain (hne : text ≠ []) : trim text = text := by
  have hblank : ∀ c ∈ text, isBlank c = false := fun c hc => isBlank_of_isDigit (h c hc)
  have hfront : text.dropWhile isBlank = text := by
    cases text with
    | nil => rfl
    | cons c rest => simp [hblank c]
  have hend := Text.dropTail_append [] hne hblank
  rw [trim, hfront]
  exact hend

theorem read_plain (hne : text ≠ []) (hlimit : text.length ≤ digitLimit) :
    read text = .ok (Json.decimal text) := by
  obtain ⟨c, rest, rfl⟩ := List.exists_cons_of_ne_nil hne
  have hc := isDigit_spec (h c List.mem_cons_self)
  have hsign : c ≠ '-' ∧ c ≠ '+' := by
    constructor <;> rintro rfl <;> exact absurd hc.1 (by decide)
  have hdigits : rest.length < digitLimit := hlimit
  simp [read, trim_plain h hne, hsign, digits?_plain h, hdigits, Json.decimal]

end

theorem read_natText {n : Nat} (h : (natText n).length ≤ digitLimit) : read (natText n) = .ok n := by
  rw [read_plain (fun _ => Json.isDigit_of_mem_natText) Nat.toDigits_ne_nil h, Json.decimal_natText]

end Integer

namespace Channel

open Act (run)
open Store (StoreError execute)

-- -----------------------------------------------------------------------------
-- Tags
-- -----------------------------------------------------------------------------

/-- The word that stands at the end of a text, behind its last space or all alone. -/
structure EndsIn (text : RawText) (word : List Char) : Prop where
  noSpace : ' ' ∉ word
  stands : text.codes = word.map Char.toNat
    ∨ ∃ front, text.codes = front ++ ' '.toNat :: word.map Char.toNat

section
variable {text : RawText} {word : List Char}

theorem EndsIn.lastWord (h : EndsIn text word) : lastWord text = .text (String.ofList word) := by
  have hspace : ' '.toNat ∉ word.map Char.toNat := by
    intro hmem
    obtain ⟨c, hc, hcode⟩ := List.mem_map.mp hmem
    exact h.noSpace (Char.toNat_inj.mp hcode ▸ hc)
  have hword : RawText.ofCodes (word.map Char.toNat) = .text (String.ofList word) := by
    simpa using RawText.ofCodes_toNat (String.ofList word)
  rw [Channel.lastWord]
  rcases h.stands with halone | ⟨front, hfront⟩
  · rw [halone, Text.cutLast?_eq_none hspace]
    exact hword
  · rw [hfront, Text.cutLast?_append front hspace]
    exact hword

theorem endsIn_of_lastWord {s : String} (h : lastWord text = .text s) : EndsIn text s.toList := by
  rw [Channel.lastWord] at h
  have hcodes (codes : List Nat) (h : RawText.ofCodes codes = .text s) :
      codes = s.toList.map Char.toNat := by
    rw [← RawText.codes_ofCodes codes, h]
    rfl
  have hspace (hnot : ' '.toNat ∉ s.toList.map Char.toNat) : ' ' ∉ s.toList :=
    fun hmem => hnot (List.mem_map_of_mem hmem)
  cases hcut : Text.cutLast? ' '.toNat text.codes with
  | none =>
    rw [hcut] at h
    have hword := hcodes _ h
    exact ⟨hspace (hword ▸ Text.notMem_of_cutLast?_none hcut), .inl hword⟩
  | some cut =>
    rw [hcut] at h
    have hword := hcodes cut.2 h
    refine ⟨hspace (hword ▸ Text.notMem_of_cutLast? hcut), .inr ⟨cut.1, ?_⟩⟩
    rw [← hword]
    exact Text.eq_append_of_cutLast? hcut

end

/-- The tag is text, and its last word spells this number. -/
inductive Spells : Json → ℤ → Prop
  | text {text : RawText} {word : List Char} {n : ℤ} (hword : EndsIn text word)
    (hread : Integer.read word = .ok n) : Spells (.str text) n

theorem Spells.rowsAffected_eq {tag : Json} {n : ℤ} (h : Spells tag n) : rowsAffected tag = n := by
  obtain ⟨hword, hread⟩ := h
  simp only [rowsAffected, hword.lastWord, String.toList_ofList, hread]

theorem rowsAffected_cases (tag : Json) :
    Spells tag (rowsAffected tag) ∨ (∀ n, ¬Spells tag n) ∧ rowsAffected tag = 0 := by
  by_cases h : ∃ n, Spells tag n
  · obtain ⟨n, hn⟩ := h
    exact .inl (hn.rowsAffected_eq.symm ▸ hn)
  · refine .inr ⟨not_exists.mp h, ?_⟩
    cases tag with
    | str text =>
      simp only [rowsAffected]
      split
      next word hword =>
        split
        next n hread => exact absurd ⟨n, .text (endsIn_of_lastWord hword) hread⟩ h
        next => rfl
      next => rfl
    | _ => rfl

theorem spells_append (front : RawText) {n : ℕ} (h : (toString n).length ≤ Integer.digitLimit) :
    Spells (.str (front ++ .text (" " ++ toString n))) n := by
  have hdigits : (toString n).toList = Integer.natText n := by simp [Integer.natText]
  have hword : EndsIn (front ++ .text (" " ++ toString n)) (Integer.natText n) := by
    refine ⟨fun hspace => ?_, .inr ⟨front.codes, ?_⟩⟩
    · cases Json.isDigit_of_mem_natText hspace
    · refine (RawText.codes_ofCodes _).trans ?_
      rw [RawText.codes, String.toList_append, hdigits]
      rfl
  exact .text hword (Integer.read_natText (hdigits ▸ h))

-- -----------------------------------------------------------------------------
-- Switches
-- -----------------------------------------------------------------------------

theorem session_ne_notFound {α : Type} {operation key : String} (body : Act StoreError α)
    (w : World) : (run (session operation body) w).1 ≠ .error (.notFound key) := by
  intro h
  rw [session, Act.run_handle] at h
  rcases hbody : run (Store.withConnection body) w with ⟨e | a, v⟩
  · rw [hbody] at h
    simp only [interpret] at h
    cases hfamily : e.family <;> rw [hfamily] at h <;> cases h
  · rw [hbody] at h
    cases h

namespace Registry

variable {w : World} {owner name : RawText} {announce : Bool} {tag : String}

def switching (owner name : RawText) (announce : Bool) : Act RegistryError String :=
  session "set_announce" (execute (setAnnounceQuery owner name announce) "UPDATE" fun t _ =>
    some (t.setChannel owner.filled name.filled announce))

def Answers (w : World) (owner name : RawText) (announce : Bool) (tag : String) : Prop :=
  (run (switching owner name announce) w).1 = .ok tag

instance : Decidable (Answers w owner name announce tag) :=
  inferInstanceAs (Decidable (_ = Except.ok tag))

def switched (w : World) (owner name : RawText) : List Store.ChannelRow :=
  w.tables.channels.filter fun row => row.owner = owner.filled ∧ row.name = name.filled

theorem Answers.tag_eq (h : Answers w owner name announce tag) :
    tag = w.nextTag.getD ("UPDATE " ++ toString (switched w owner name).length) := by
  obtain ⟨-, ⟨-, -, htag⟩, -⟩ := (execute_commits _).ok (Act.run_eq h)
  rw [htag, switched, ← List.countP_eq_length_filter]
  rfl

theorem run_setAnnounce (w : World) (owner name : RawText) (announce : Bool) :
    (run (setAnnounce owner name announce) w).1 = match (run (switching owner name announce) w).1 with
      | .ok tag => if rowsAffected (.str tag) = 0 then .error (.notFound name.filled) else .ok ()
      | .error e => .error e := by
  rw [setAnnounce, Act.run_bind, switching]
  split
  next tag v hrun =>
    rw [hrun]
    simp only
    split <;> rfl
  next e v hrun => rw [hrun]

theorem Answers.missing_iff (h : Answers w owner name announce tag) :
    (run (setAnnounce owner name announce) w).1 = .error (.notFound name.filled)
      ↔ rowsAffected (.str tag) = 0 := by
  rw [run_setAnnounce, h]
  simp only
  split
  next hnone => exact iff_of_true rfl hnone
  next hsome => exact iff_of_false nofun hsome

theorem missing_iff {key : String} :
    (run (setAnnounce owner name announce) w).1 = .error (.notFound key)
      ↔ key = name.filled ∧ ∃ tag, Answers w owner name announce tag
        ∧ rowsAffected (.str tag) = 0 := by
  constructor
  · intro hmissing
    rw [run_setAnnounce] at hmissing
    cases hanswer : (run (switching owner name announce) w).1 with
    | error e =>
      rw [hanswer] at hmissing
      cases hmissing
      exact absurd hanswer (session_ne_notFound _ w)
    | ok tag =>
      rw [hanswer] at hmissing
      simp only at hmissing
      split at hmissing
      next hnone =>
        cases hmissing
        exact ⟨rfl, tag, hanswer, hnone⟩
      next => cases hmissing
  · rintro ⟨rfl, tag, h, hnone⟩
    exact h.missing_iff.mpr hnone

theorem Answers.missing_iff_zero {front : String} {n : ℕ}
    (h : Answers w owner name announce (front ++ " " ++ toString n))
    (hdigits : (toString n).length ≤ Integer.digitLimit) :
    (run (setAnnounce owner name announce) w).1 = .error (.notFound name.filled) ↔ n = 0 := by
  have htag : (RawText.text (front ++ " " ++ toString n)) = front ++ .text (" " ++ toString n) := by
    rw [RawText.text_append, String.append_assoc]
  rw [h.missing_iff, htag, (spells_append front hdigits).rowsAffected_eq]
  exact Int.natCast_eq_zero

/-- The tag of a change ends in the number that is read from it: for all texts in front of a number
of at most 4300 digits that number is read, and from every value whatsoever the number that its last
word spells, or zero if it spells none. So in every world, whatever fails and whatever tag is set aside,
a switch is reported missing if and only if the tag that the store answers with is read as zero. With a
tag that ends in a number, this number is zero; with the tag of the store itself, there is no such
row. -/
theorem tags_tell_rows :
    (∀ (front : RawText) (n : ℕ), (toString n).length ≤ Integer.digitLimit →
      rowsAffected (.str (front ++ .text (" " ++ toString n))) = n)
    ∧ (∀ tag, Spells tag (rowsAffected tag) ∨ (∀ n, ¬Spells tag n) ∧ rowsAffected tag = 0)
    ∧ ∀ w owner name announce,
      (∀ key, (run (setAnnounce owner name announce) w).1 = .error (.notFound key)
        ↔ key = name.filled ∧ ∃ tag, Answers w owner name announce tag
          ∧ rowsAffected (.str tag) = 0)
      ∧ (∀ front n, Answers w owner name announce (front ++ " " ++ toString n) →
        (toString n).length ≤ Integer.digitLimit →
        ((run (setAnnounce owner name announce) w).1 = .error (.notFound name.filled) ↔ n = 0))
      ∧ ∀ tag, Answers w owner name announce tag → w.nextTag = none →
        (toString (switched w owner name).length).length ≤ Integer.digitLimit →
        ((run (setAnnounce owner name announce) w).1 = .error (.notFound name.filled)
          ↔ ∀ row ∈ w.tables.channels, row.owner = owner.filled → row.name ≠ name.filled) := by
  refine ⟨fun front n hdigits => (spells_append front hdigits).rowsAffected_eq, rowsAffected_cases,
    fun w owner name announce =>
      ⟨fun key => missing_iff, fun front n => Answers.missing_iff_zero, ?_⟩⟩
  intro tag h htag hdigits
  have hown : tag = "UPDATE" ++ " " ++ toString (switched w owner name).length := by
    rw [h.tag_eq, htag, Option.getD_none]
    rfl
  subst hown
  rw [h.missing_iff_zero hdigits, List.length_eq_zero_iff, switched, List.filter_eq_nil_iff]
  simp

/-- A number behind half of a character is read, and so is one with a sign. A channel that is there
is reported missing if the tag set aside ends in zero, and found by the tag of the store itself, which
does not find one of another name. -/
theorem tags_tell_rows_aside : ∃ (own aside : World) (front : RawText) (spelled : Json),
    front.text? = none ∧ rowsAffected (.str (front ++ .text (" " ++ toString 13))) = 13
    ∧ Spells spelled 10
    ∧ Answers aside "ann" "tea" true ("INSERT 1" ++ " " ++ toString 0)
    ∧ (run (setAnnounce "ann" "tea" true) aside).1 = .error (.notFound "tea")
    ∧ Answers own "ann" "tea" true "UPDATE 1" ∧ Answers own "ann" "cha" true "UPDATE 0"
    ∧ (run (setAnnounce "ann" "tea" true) own).1 ≠ .error (.notFound "tea")
    ∧ (run (setAnnounce "ann" "cha" true) own).1 = .error (.notFound "cha") := by
  let own := Store.holding ⟨[⟨"ann", true⟩], [⟨"ann", "tea", "k", none, false⟩], []⟩
  let aside := { own with nextTag := some "INSERT 1 0" }
  have haside : Answers aside "ann" "tea" true ("INSERT 1" ++ " " ++ toString 0) := by decide +kernel
  have htea : Answers own "ann" "tea" true "UPDATE 1" := by decide +kernel
  have hcha : Answers own "ann" "cha" true "UPDATE 0" := by decide +kernel
  obtain ⟨hread, hall, hswitches⟩ := tags_tell_rows
  obtain ⟨-, htold, -⟩ := hswitches aside "ann" "tea" true
  obtain ⟨-, -, htea'⟩ := hswitches own "ann" "tea" true
  obtain ⟨-, -, hcha'⟩ := hswitches own "ann" "cha" true
  have hspelled : rowsAffected (.str "UPDATE +1_0") = 10 := by decide +kernel
  refine ⟨own, aside, .broken [0xd800], .str "UPDATE +1_0", rfl, hread _ 13 (by decide), ?_, haside,
    (htold _ 0 haside (by decide)).mpr rfl, htea, hcha, ?_, ?_⟩
  · rcases hall (.str "UPDATE +1_0") with h | ⟨-, h⟩
    · exact hspelled ▸ h
    · cases hspelled.symm.trans h
  · exact (htea' _ htea rfl (by decide)).not.mpr (by decide)
  · exact (hcha' _ hcha rfl (by decide)).mpr (by decide)

end Registry
end Channel
end OnAir
