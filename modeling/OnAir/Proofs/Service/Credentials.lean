import OnAir.Proofs.Ingest.Verdict
import OnAir.Proofs.Service.Run

/-!
# Credentials

Every attempt to create a channel draws the bytes of a key, and only one that succeeds puts its key
into the tables. As long as no two attempts draw the same bytes, a key tells which of them it came
from: it lets in to that channel until its owner deletes it, and to no channel at any other time.
-/

namespace OnAir.Service

open Act (run)
open Channel (Definition bytesAt secretAt)
open Ingest (Attempt Decided byKey)
open Store (Calm Maps Tables checkStorable)

-- -----------------------------------------------------------------------------
-- Draws
-- -----------------------------------------------------------------------------

def Entry.draw? (e : Entry) : Option Bytes :=
  match e.call with
  | .owner _ (.create _) => some (bytesAt e.world.random)
  | _ => none

def Distinct (past : List Entry) : Prop :=
  (past.filterMap Entry.draw?).Nodup

instance (past : List Entry) : Decidable (Distinct past) :=
  inferInstanceAs (Decidable (List.Nodup _))

section
variable {before before' later later' : List Entry} {e e' : Entry} {bytes : Bytes}

theorem Distinct.notMem (h : Distinct (before ++ e :: later)) (he : e.draw? = some bytes)
    (he' : e'.draw? = some bytes) : e' ∉ before ∧ e' ∉ later := by
  rw [Distinct, List.filterMap_append, List.filterMap_cons_some he,
    List.nodup_middle, List.nodup_cons] at h
  have hnot {part : List Entry} (hpart : bytes ∉ part.filterMap Entry.draw?) : e' ∉ part :=
    fun hmem => hpart (List.mem_filterMap.mpr ⟨e', hmem, he'⟩)
  simp only [List.mem_append, not_or] at h
  exact ⟨hnot h.1.1, hnot h.1.2⟩

theorem Distinct.place (h : Distinct (before ++ e :: later)) (he : e.draw? = some bytes)
    (he' : e'.draw? = some bytes) (hsame : before ++ e :: later = before' ++ e' :: later') :
    e = e' ∧ later = later' := by
  obtain ⟨hbefore, hlater⟩ := h.notMem he he'
  rcases List.append_eq_append_iff.mp hsame with ⟨between, -, hrest⟩ | ⟨between, rfl, hrest⟩
  · cases between with
    | nil => exact List.cons_eq_cons.mp hrest
    | cons a between =>
      obtain ⟨-, rfl⟩ := List.cons_eq_cons.mp hrest
      simp at hlater
  · cases between with
    | nil =>
      obtain ⟨rfl, rfl⟩ := List.cons_eq_cons.mp hrest
      exact ⟨rfl, rfl⟩
    | cons a between =>
      obtain ⟨rfl, -⟩ := List.cons_eq_cons.mp hrest
      simp at hbefore

end

-- -----------------------------------------------------------------------------
-- Keys of channels
-- -----------------------------------------------------------------------------

def Bears (m : Maps) (who name key : String) : Prop :=
  ∃ entry, m.channels name = some entry ∧ entry.owner = who ∧ entry.secret = key

section
variable (publishDir : String)

def Entry.Issues (who name key : String) (e : Entry) : Prop :=
  e.Did publishDir (.owner (.text who) (.create (.text name))) ∧ secretAt e.world.random = key

def Entry.Drops (who name : String) (e : Entry) : Prop :=
  e.Did publishDir (.owner (.text who) (.delete (.text name)))

end

section
variable {publishDir : String} {past : List Entry} {e : Entry} {m m' : Maps} {w : World}

theorem Turn.bears_iff (hturn : Turn publishDir e m m') (who name key : String) :
    Bears m' who name key
      ↔ e.Issues publishDir who name key ∨ ¬e.Drops publishDir who name ∧ Bears m who name key := by
  have hfate := hturn.fate name
  simp only [Bears, Entry.Issues, Entry.Drops]
  generalize m.channels name = c at hfate
  generalize m'.channels name = c' at hfate
  cases hfate with
  | kept hcreate hset hdelete =>
    simp only [hcreate, false_and, false_or]
    refine (and_iff_right_of_imp ?_).symm
    rintro ⟨entry, hentry, rfl, -⟩
    exact hdelete entry hentry
  | created hdid => simp [hdid]
  | set hdid => simp [hdid]
  | @deleted entry hdid => by_cases ha : entry.owner = who <;> simp [hdid, ha]

/-- The keys in the tables are those of the channels that were created and not deleted since. -/
theorem Run.bears_iff (hrun : Run publishDir past w) (who name key : String) :
    Bears w.tables.maps who name key
      ↔ Since (Entry.Issues publishDir who name key) (Entry.Drops publishDir who name) past :=
  ((run_iff.mp hrun).since Tables.unique_empty fun _ _ _ hturn =>
    hturn.bears_iff who name key).2 nofun

end

-- -----------------------------------------------------------------------------
-- What a key is good for
-- -----------------------------------------------------------------------------

/-- A key lets in to one channel and to no other. -/
structure Good (w : World) (who name key : String) : Prop where
  admits : Calm w → ∃ announced, (run (byKey name key) w).1 = .ok ⟨who, name, announced⟩
  only : ∀ n auth, (run (byKey n key) w).1 = .ok auth →
    n = .text name ∧ auth.owner = who ∧ auth.name = name
  refuses : Calm w → ∀ n, checkStorable n = .ok () → n ≠ .text name →
    (run (byKey n key) w).1 = .error Ingest.refusal

/-- A key lets in nowhere. -/
structure Void (w : World) (key : String) : Prop where
  never : ∀ n auth, (run (byKey n key) w).1 ≠ .ok auth
  refuses : Calm w → ∀ n, checkStorable n = .ok () →
    (run (byKey n key) w).1 = .error Ingest.refusal

section
variable {publishDir : String} {past before later : List Entry} {v w : World}
  {who name key : String} {d : Definition}

theorem key_decided {n : RawText} (hw : Calm w) (hkeys : w.tables.Unique)
    (hn : checkStorable n = .ok ()) :
    Decided w.tables (Attempt.key n key).Fits (run (byKey n key) w).1 :=
  Attempt.decided hw hkeys.findable ⟨hn, _, rfl⟩

theorem good_of_row {row : Store.ChannelRow} (hkeys : w.tables.Unique)
    (hname : checkStorable (.text row.name) = .ok ()) (hrow : row ∈ w.tables.channels)
    (honly : ∀ other ∈ w.tables.channels, other.secret = row.secret → other.name = row.name) :
    Good w row.owner row.name row.secret where
  admits hw :=
    ⟨_, (key_decided hw hkeys hname).admitted_of hkeys.findable hrow ⟨rfl, rfl⟩⟩
  only n auth hauth := by
    obtain ⟨other, hother, ⟨rfl, hsecret⟩, rfl⟩ := Attempt.let_in (.key n row.secret) hauth
    have hsame : Channel.Column.name.Holds row.name other :=
      honly other hother (RawText.text.inj hsecret).symm
    rw [hsame.unique hkeys.findable hother hrow rfl]
    exact ⟨rfl, rfl, rfl⟩
  refuses hw n hn hne := by
    refine (key_decided hw hkeys hn).refused_of fun other hother ⟨hother', hsecret⟩ => hne ?_
    rw [hother', honly other hother (RawText.text.inj hsecret).symm]

theorem void_of_rows (hkeys : w.tables.Unique) (h : ∀ row ∈ w.tables.channels, row.secret ≠ key) :
    Void w key where
  never n auth hauth := by
    obtain ⟨row, hrow, ⟨-, hsecret⟩, -⟩ := Attempt.let_in (.key n key) hauth
    exact h row hrow (RawText.text.inj hsecret).symm
  refuses hw n hn :=
    (key_decided hw hkeys hn).refused_of fun row hrow ⟨_, hsecret⟩ =>
      h row hrow (RawText.text.inj hsecret).symm

theorem create_ok (h : (run ((Call.owner (.text who) (.create (.text name))).act publishDir) v).1
    = .ok (.definition d)) :
    checkStorable (.text name) = .ok () ∧ d.key = secretAt v.random := by
  rw [Call.act, Act.run_mapError, mapError_ok, OwnerCall.act, map_eq_pure_bind] at h
  obtain ⟨definition, u, hcreate, hdone⟩ := Act.bind_ok.mp (Act.run_eq h)
  cases (Act.pure_ok.mp hdone).1
  obtain ⟨a, n, t, -, -, rfl, -⟩ := Channel.Service.create_triple.ok hcreate
  refine ⟨?_, rfl⟩
  obtain ⟨identity, u', hregistry, -⟩ := Act.bind_ok.mp hcreate
  rcases Act.handle_ok.mp hregistry with hok | ⟨e, u'', -, hfailed⟩
  · exact Channel.Registry.storable_of_create hok
  · cases e <;> cases hfailed

theorem Entry.Issues.draw? {e : Entry} (h : e.Issues publishDir who name (secretAt v.random)) :
    e.draw? = some (bytesAt v.random) := by
  rw [Entry.draw?, h.1.1]
  exact congrArg some (Channel.secretAt_inj.mp h.2)

/-- The key of a new channel lets its publisher in until the owner deletes the channel, whatever else
is called in between. After that, and before the channel was created, it lets nobody in. -/
theorem key_lives_with_channel
    (hrun : Run publishDir (before ++ ⟨v, .owner (.text who) (.create (.text name))⟩ :: later) w)
    (hdraws : Distinct (before ++ ⟨v, .owner (.text who) (.create (.text name))⟩ :: later))
    (hcreated : (run ((Call.owner (.text who) (.create (.text name))).act publishDir) v).1
      = .ok (.definition d)) :
    ((∀ e ∈ later, ¬e.Drops publishDir who name) → Good w who name d.key)
      ∧ ((∃ e ∈ later, e.Drops publishDir who name) → Void w d.key)
      ∧ ∀ past u, past <+: before → Run publishDir past u → Void u d.key := by
  obtain ⟨hname, hkey⟩ := create_ok hcreated
  have hunique := (run_iff.mp hrun).unique Tables.unique_empty
  rw [hkey]
  -- A channel with this key was created by this very call.
  have hbears (a n : String) (h : Bears w.tables.maps a n (secretAt v.random)) :
      a = who ∧ n = name ∧ ∀ b ∈ later, ¬b.Drops publishDir who name := by
    obtain ⟨before', e, later', hpast, hissue, hkept⟩ := (hrun.bears_iff _ _ _).mp h
    obtain ⟨rfl, rfl⟩ := hdraws.place rfl hissue.draw? hpast
    cases hissue.1.1
    exact ⟨rfl, rfl, hkept⟩
  refine ⟨fun hkept => ?_, ?_, fun past u hahead hpast => ?_⟩
  · obtain ⟨⟨_, _, ftlId, announce⟩, hentry, rfl, hsecret⟩ :=
      (hrun.bears_iff who name (secretAt v.random)).mpr
        ⟨before, _, later, rfl, ⟨⟨rfl, _, hcreated⟩, rfl⟩, hkept⟩
    cases hsecret
    have hrow : ⟨_, name, secretAt v.random, ftlId, announce⟩ ∈ w.tables.channels :=
      (Tables.mem_channels hunique).mpr hentry
    refine good_of_row hunique hname hrow fun other hother hsame => ?_
    exact (hbears _ _ ⟨_, (Tables.mem_channels hunique).mp hother, rfl, hsame⟩).2.1
  · rintro ⟨b, hb, hdropped⟩
    refine void_of_rows hunique fun row hrow hsecret => ?_
    obtain ⟨-, -, hkept⟩ := hbears _ _ ⟨_, (Tables.mem_channels hunique).mp hrow, rfl, hsecret⟩
    exact hkept b hb hdropped
  · have hunique' := (run_iff.mp hpast).unique Tables.unique_empty
    refine void_of_rows hunique' fun row hrow hsecret => ?_
    obtain ⟨before', e, later', rfl, hissue, -⟩ := (hpast.bears_iff row.owner row.name _).mp
      ⟨_, (Tables.mem_channels hunique').mp hrow, rfl, hsecret⟩
    exact (hdraws.notMem rfl hissue.draw?).1 (hahead.subset (by simp))

end

def counting : World :=
  { fresh with random := ⟨UInt8.ofNat, 0⟩ }

def firstKey : String :=
  "000102030405060708090a0b0c0d0e0f1011121314151617"

/-- A channel is created and the attempts of somebody else to create and delete it fail, so its key
is good. Then its owner deletes it and somebody else creates it again, and the key is void. -/
theorem key_lives_with_channel_recreated :
    (∃ past w, Run "" past w ∧ Distinct past ∧ Good w "ann" "show" firstKey)
      ∧ ∃ past w, Run "" past w ∧ Distinct past ∧ Void w firstKey := by
  let create : Call := .owner "ann" (.create "show")
  let others : List Call := [.owner "bob" (.create "show"), .owner "bob" (.delete "show"),
    .owner "bob" (.setOwnerAnnounce false)]
  let after : List Call := others ++ [.owner "ann" (.delete "show"), .owner "bob" (.create "show")]
  have hrun (calls : List Call) : Run "" (hourly (create :: calls) ([], counting)).1
      (hourly (create :: calls) ([], counting)).2 :=
    (Run.start counting rfl).hourly (s := ([], counting)) _ rfl
  have hcreated : (run (create.act "") counting).1 = .ok (.definition (.ofIdentity
      ⟨"ann", "show", firstKey, none, true⟩ "")) := by decide +kernel
  have hfirst : Distinct (hourly (create :: others) ([], counting)).1 := by decide +kernel
  have hsecond : Distinct (hourly (create :: after) ([], counting)).1 := by decide +kernel
  refine ⟨⟨_, _, hrun others, hfirst, ?_⟩, ⟨_, _, hrun after, hsecond, ?_⟩⟩
  · obtain ⟨later, hcalls, hpast⟩ := exists_later [] create others ([], counting)
    refine (key_lives_with_channel (hpast ▸ hrun others) (hpast ▸ hfirst) hcreated).1 ?_
    rintro e he ⟨hcall, -⟩
    exact absurd (hcall ▸ hcalls e he) (by decide)
  · obtain ⟨later, -, hpast⟩ := exists_later [] create after ([], counting)
    refine (key_lives_with_channel (hpast ▸ hrun after) (hpast ▸ hsecond) hcreated).2.1 ?_
    obtain ⟨rest, -, hdeleted⟩ := exists_later (create :: others) (.owner "ann" (.delete "show"))
      [.owner "bob" (.create "show")] ([], counting)
    have hdone : (run ((Call.owner "ann" (.delete "show")).act "")
        (hourly (create :: others) ([], counting)).2).1 = .ok .done := by decide +kernel
    have hmem := List.mem_append_right (hourly (create :: others) ([], counting)).1
      (List.mem_cons_self (a := ⟨(hourly (create :: others) ([], counting)).2,
        .owner "ann" (.delete "show")⟩) (l := rest))
    rw [← hdeleted] at hmem
    rcases List.mem_cons.mp (hpast ▸ hmem) with hsame | hlater
    · cases congrArg Entry.call hsame
    · exact ⟨_, hlater, rfl, _, hdone⟩

end OnAir.Service
