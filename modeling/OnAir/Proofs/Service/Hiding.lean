import OnAir.Proofs.Service.Announcement
import OnAir.Proofs.Service.Run

/-!
# Hiding

An owner can hide one channel or all of them at once. A channel that is created again is announced by
its own switch, but not against the switch of its owner, which a creation leaves as it is. So what is
hidden stays hidden from viewers and from the media engine until its owner says otherwise, whatever
else is called.
-/

namespace OnAir.Service

open Act (run)
open Ingest (Attempt)
open Store (Maps Tables)

-- -----------------------------------------------------------------------------
-- Hidden channels
-- -----------------------------------------------------------------------------

/-- A channel, if its owner has it, is not shown to viewers, and the media engine is told that it is
not announced. -/
structure Hidden (w : World) (who name : String) : Prop where
  unlisted : ∀ row ∈ w.tables.channels, row.owner = who → row.name = name →
    ∀ names, Shows w names → name ∉ names
  unannounced : ∀ (attempt : Attempt) auth, (run attempt.act w).1 = .ok auth →
    auth.owner = who → auth.name = name → auth.announced = false

theorem hidden_of_rows {w : World} {who name : String} (hkeys : w.tables.Unique)
    (h : ∀ row ∈ w.tables.channels, row.owner = who → row.name = name →
      w.tables.announced row = false) : Hidden w who name where
  unlisted row hrow howner hname names hshows hmem := by
    rw [hshows.eq, mem_shown_iff hkeys.findable] at hmem
    obtain ⟨-, other, hother, hsame, hannounced⟩ := hmem
    have hheld : Channel.Column.name.Holds name row := hname
    rw [hheld.unique hkeys.findable hrow hother hsame] at howner
    rw [h other hother howner hsame] at hannounced
    cases hannounced
  unannounced attempt auth hauth howner hname := by
    obtain ⟨row, hrow, -, rfl⟩ := Attempt.let_in attempt hauth
    exact h row hrow howner hname

-- -----------------------------------------------------------------------------
-- Channels hidden one by one
-- -----------------------------------------------------------------------------

section
variable (publishDir : String)

def Entry.Mutes (who name : String) (e : Entry) : Prop :=
  e.Did publishDir (.owner (.text who) (.setAnnounce (.text name) false))

def Entry.Unmutes (who name : String) (e : Entry) : Prop :=
  e.Did publishDir (.owner (.text who) (.setAnnounce (.text name) true))
    ∨ e.Did publishDir (.owner (.text who) (.delete (.text name)))

def Muted (who name : String) : List Entry → Prop :=
  Since (Entry.Mutes publishDir who name) (Entry.Unmutes publishDir who name)

end

def Withheld (m : Maps) (who name : String) : Prop :=
  ∃ entry, m.channels name = some entry ∧ entry.owner = who ∧ entry.announce = false

section
variable {publishDir : String} {before : Tables} {past : List Entry} {e : Entry} {m m' : Maps}
  {w : World}

theorem Turn.withheld_iff (hturn : Turn publishDir e m m') (who name : String) :
    Withheld m' who name ↔ e.Mutes publishDir who name
      ∨ ¬e.Unmutes publishDir who name ∧ Withheld m who name := by
  have hfate := hturn.fate name
  simp only [Withheld, Entry.Mutes, Entry.Unmutes]
  generalize m.channels name = c at hfate
  generalize m'.channels name = c' at hfate
  cases hfate with
  | kept hcreate hset hdelete =>
    simp only [hset, false_or]
    refine (and_iff_right_of_imp ?_).symm
    rintro ⟨entry, hentry, rfl, -⟩
    exact hdelete entry hentry
  | created hdid => simp [hdid]
  | @set entry announce hdid => cases announce <;> by_cases ha : entry.owner = who <;> simp [hdid, ha]
  | @deleted entry hdid => by_cases ha : entry.owner = who <;> simp [hdid, ha]

/-- What an owner hides stays hidden: all channels, also those created or announced since, until the
owner's switch is set back; one channel, until it is announced or deleted. -/
theorem hidden_stays_hidden (hcourse : Course publishDir before past w) (hkeys : before.Unique)
    (who : String) :
    (Silenced publishDir who past → ∀ name, Hidden w who name)
      ∧ ∀ name, Muted publishDir who name past →
        (∃ row ∈ w.tables.channels, row.owner = who ∧ row.name = name) ∧ Hidden w who name := by
  have hunique := hcourse.unique hkeys
  constructor
  · intro hsilenced name
    have hsilent := (hcourse.since hkeys fun _ _ _ hturn => hturn.silent_iff who).1 hsilenced
    refine hidden_of_rows hunique fun row hrow howner hname => ?_
    have hswitch : w.tables.ownerAnnounce? row.owner = some false := howner ▸ hsilent
    simp [Tables.announced, hswitch]
  · intro name hmuted
    obtain ⟨entry, hentry, howner, hswitch⟩ :=
      (hcourse.since hkeys fun _ _ _ hturn => hturn.withheld_iff who name).1 hmuted
    constructor
    · have hrow : ⟨entry.owner, name, entry.secret, entry.ftlId, entry.announce⟩
          ∈ w.tables.channels := (Tables.mem_channels hunique).mpr hentry
      exact ⟨_, hrow, howner, rfl⟩
    · refine hidden_of_rows hunique fun row hrow _ hname => ?_
      subst hname
      cases hentry.symm.trans ((Tables.mem_channels hunique).mp hrow)
      have hown : row.announce = false := hswitch
      simp [Tables.announced, hown]

end

def showing : World :=
  { fresh with tables := ⟨[⟨"ann", true⟩], [⟨"ann", "show", "secret", none, true⟩],
      [⟨"show", [1], 0⟩]⟩ }

/-- An owner hides all their channels, then deletes one, creates it again and announces it; or an
owner hides this one, and then their switch is set. It was shown before, and is shown no more. -/
theorem hidden_stays_hidden_recreated :
    (run Directory.listLive showing).1 = .ok [⟨"show", 0⟩]
      ∧ (∃ past w, Course "" showing.tables past w ∧ Silenced "" "ann" past
        ∧ Hidden w "ann" "show")
      ∧ ∃ past w, Course "" showing.tables past w ∧ Muted "" "ann" "show" past
        ∧ Hidden w "ann" "show" := by
  let hideAll : Call := .owner "ann" (.setOwnerAnnounce false)
  let afterAll : List Call := [.owner "ann" (.delete "show"), .owner "ann" (.create "show"),
    .owner "ann" (.setAnnounce "show" true)]
  let hideOne : Call := .owner "ann" (.setAnnounce "show" false)
  let afterOne : List Call := [.owner "bob" (.delete "show"), .putThumbnail "show" [2],
    .owner "ann" (.setOwnerAnnounce true)]
  have hkeys : showing.tables.Unique := by constructor <;> decide
  have hcourse (calls : List Call) :
      Course "" showing.tables (hourly calls ([], showing)).1 (hourly calls ([], showing)).2 :=
    (Course.start showing rfl).hourly (s := ([], showing)) _ rfl
  have hsilenced : Silenced "" "ann" (hourly (hideAll :: afterAll) ([], showing)).1 := by
    obtain ⟨later, hcalls, hpast⟩ := exists_later [] hideAll afterAll ([], showing)
    have hdone : (run (hideAll.act "") showing).1 = .ok .done := by decide +kernel
    refine ⟨_, _, later, hpast, ⟨rfl, _, hdone⟩, ?_⟩
    rintro e he ⟨hcall, -⟩
    exact absurd (hcall ▸ hcalls e he) (by decide)
  have hmuted : Muted "" "ann" "show" (hourly (hideOne :: afterOne) ([], showing)).1 := by
    obtain ⟨later, hcalls, hpast⟩ := exists_later [] hideOne afterOne ([], showing)
    have hdone : (run (hideOne.act "") showing).1 = .ok .done := by decide +kernel
    refine ⟨_, _, later, hpast, ⟨rfl, _, hdone⟩, ?_⟩
    rintro e he (⟨hcall, -⟩ | ⟨hcall, -⟩)
    all_goals exact absurd (hcall ▸ hcalls e he) (by decide)
  exact ⟨by decide +kernel,
    ⟨_, _, hcourse _, hsilenced, (hidden_stays_hidden (hcourse _) hkeys "ann").1 hsilenced "show"⟩,
    ⟨_, _, hcourse _, hmuted, ((hidden_stays_hidden (hcourse _) hkeys "ann").2 "show" hmuted).2⟩⟩

end OnAir.Service
