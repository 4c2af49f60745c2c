import OnAir.Proofs.Channel.Independence
import OnAir.Proofs.Service.Announcement
import OnAir.Proofs.Time.Clock
import Mathlib.Data.List.Sort
import Mathlib.Data.Prod.Lex

/-!
# The order of a listing

The place of a channel in a listing is how stale its picture is, a minute at least, and its name
among equally stale ones. Names tell channels apart, so there is one listing in rising order, in
whatever order the store brings the rows: first the channels of the last minute by name, then the
others from newer to older pictures. Only the time of the store counts.

A listing shows in whole milliseconds when a picture was put. For pictures from November 2004 to
January 2038 these are exact, so a channel that is listed behind another one because its picture is
older is not shown with a later time.
-/

namespace OnAir.Directory

open Act (Alike Paired run)
open Double (Nearest)
open Instant (Recent millis)
open Store (Abreast)

variable {w : World} {rows listing : List LivenessRow} {now : Instant}

-- -----------------------------------------------------------------------------
-- Places
-- -----------------------------------------------------------------------------

/-- The place of a row: its staleness, a minute at least, then its name by code points. -/
def place (now : Instant) (row : LivenessRow) : Int ×ₗ String :=
  toLex (max (now - row.updated) freshness, row.name)

theorem staleness_eq (row : LivenessRow) (now : Instant) :
    staleness row now = max (now - row.updated) freshness := by
  rw [staleness, max_def_lt]

theorem listedBefore_iff (a b : LivenessRow) :
    listedBefore now a b = true ↔ place now a ≤ place now b := by
  have hname : Text.notAfter a.name.toList b.name.toList = true ↔ a.name ≤ b.name := by
    rw [Text.notAfter_iff, String.le_iff_toList_le, not_lt]
  simp only [listedBefore, place, Prod.Lex.toLex_le_toLex, staleness_eq, Bool.or_eq_true,
    Bool.and_eq_true, decide_eq_true_eq, beq_iff_eq, hname]

theorem ordered_perm (rows : List LivenessRow) (now : Instant) : (ordered rows now).Perm rows :=
  List.mergeSort_perm _ _

theorem pairwise_ordered (rows : List LivenessRow) (now : Instant) :
    (ordered rows now).Pairwise fun a b => place now a ≤ place now b := by
  have htrans (a b c : LivenessRow) (hab : listedBefore now a b = true)
      (hbc : listedBefore now b c = true) : listedBefore now a c = true :=
    (listedBefore_iff a c).mpr
      (le_trans ((listedBefore_iff a b).mp hab) ((listedBefore_iff b c).mp hbc))
  have htotal (a b : LivenessRow) : (listedBefore now a b || listedBefore now b a) = true := by
    rw [Bool.or_eq_true, listedBefore_iff, listedBefore_iff]
    exact le_total _ _
  exact (List.pairwise_mergeSort htrans htotal rows).imp fun h => (listedBefore_iff _ _).mp h

theorem ordered_strict (hnames : (rows.map (·.name)).Nodup) :
    (ordered rows now).Pairwise fun a b => place now a < place now b := by
  have hdistinct : ((ordered rows now).map (·.name)).Nodup :=
    ((ordered_perm rows now).map _).nodup_iff.mpr hnames
  refine (pairwise_ordered rows now).imp₂ (fun a b hle hne => ?_) (List.pairwise_map.mp hdistinct)
  exact lt_of_le_of_ne hle fun hsame => hne (congrArg (fun p => (ofLex p).2) hsame)

theorem eq_of_strict {listing' : List LivenessRow} (hperm : listing.Perm listing')
    (h : listing.Pairwise fun a b => place now a < place now b)
    (h' : listing'.Pairwise fun a b => place now a < place now b) : listing = listing' :=
  hperm.eq_of_pairwise (fun _ _ _ _ hab hba => absurd hba hab.asymm) h h'

-- -----------------------------------------------------------------------------
-- The last minute and before
-- -----------------------------------------------------------------------------

def fresh (now : Instant) (row : LivenessRow) : Bool :=
  now - row.updated ≤ freshness

theorem place_lt_of_fresh {a b : LivenessRow} (ha : fresh now a = true) (hb : fresh now b = true)
    (h : place now a < place now b) : a.name < b.name := by
  simp only [fresh, decide_eq_true_eq] at ha hb
  rw [place, place, Prod.Lex.toLex_lt_toLex, max_eq_right ha, max_eq_right hb] at h
  exact h.resolve_left (lt_irrefl _) |>.2

theorem place_lt_of_stale {a b : LivenessRow} (ha : fresh now a = false) (hb : fresh now b = false)
    (h : place now a < place now b) : b.updated ≤ a.updated := by
  simp only [fresh, decide_eq_false_iff_not, not_le] at ha hb
  rw [place, place, Prod.Lex.toLex_lt_toLex, max_eq_left ha.le, max_eq_left hb.le] at h
  rcases h with h | ⟨h, -⟩
  · exact (sub_lt_sub_iff_left now).mp h |>.le
  · exact (sub_right_inj.mp h).ge

theorem fresh_of_place_lt {a b : LivenessRow} (h : place now a < place now b)
    (hb : fresh now b = true) : fresh now a = true := by
  simp only [fresh, decide_eq_true_eq] at hb ⊢
  rw [place, place, Prod.Lex.toLex_lt_toLex, max_eq_right hb] at h
  rcases h with h | ⟨h, -⟩
  · exact absurd (le_max_right _ _) h.not_ge
  · exact max_eq_right_iff.mp h

/-- A listing of rows: these rows in rising order of their places, that is, those of the last minute
by name and then the others from newer to older pictures. -/
structure Ranked (now : Instant) (rows listing : List LivenessRow) : Prop where
  perm : listing.Perm rows
  ascending : listing.Pairwise fun a b => place now a < place now b
  parts : ∃ recent older, listing = recent ++ older
    ∧ (∀ row ∈ recent, now - row.updated ≤ freshness)
    ∧ (∀ row ∈ older, freshness < now - row.updated)
    ∧ (recent.Pairwise fun a b => a.name < b.name)
    ∧ older.Pairwise fun a b => b.updated ≤ a.updated

/-- A listing in rising order falls into the channels of the last minute and the others. -/
theorem eq_append_of_strict (h : listing.Pairwise fun a b => place now a < place now b) :
    listing = listing.filter (fresh now) ++ listing.filter (fun row => !fresh now row) := by
  induction listing with
  | nil => rfl
  | cons row rest ih =>
    obtain ⟨hfirst, hrest⟩ := List.pairwise_cons.mp h
    cases hrow : fresh now row with
    | true =>
      rw [List.filter_cons_of_pos hrow, List.filter_cons_of_neg (by simp [hrow]), List.cons_append,
        ← ih hrest]
    | false =>
      have hnone : rest.filter (fresh now) = [] := by
        refine List.filter_eq_nil_iff.mpr fun other hother hfresh => ?_
        rw [fresh_of_place_lt (hfirst other hother) hfresh] at hrow
        cases hrow
      have hall := ih hrest
      rw [hnone, List.nil_append] at hall
      rw [List.filter_cons_of_neg (by simp [hrow]), List.filter_cons_of_pos (by simp [hrow]), hnone,
        List.nil_append, ← hall]

theorem Ranked.of_strict (hperm : listing.Perm rows)
    (h : listing.Pairwise fun a b => place now a < place now b) : Ranked now rows listing := by
  refine ⟨hperm, h, _, _, eq_append_of_strict h, fun row hrow => ?_, fun row hrow => ?_, ?_, ?_⟩
  · exact of_decide_eq_true (List.mem_filter.mp hrow).2
  · have hstale : fresh now row = false := by simpa using (List.mem_filter.mp hrow).2
    exact not_le.mp (of_decide_eq_false hstale)
  · refine (h.filter _).imp_of_mem fun ha hb => ?_
    exact place_lt_of_fresh (List.mem_filter.mp ha).2 (List.mem_filter.mp hb).2
  · refine (h.filter _).imp_of_mem fun ha hb => ?_
    exact place_lt_of_stale (by simpa using (List.mem_filter.mp ha).2)
      (by simpa using (List.mem_filter.mp hb).2)

theorem ranked_iff (hnames : (rows.map (·.name)).Nodup) :
    Ranked now rows listing ↔ listing = ordered rows now := by
  constructor
  · intro h
    exact eq_of_strict (h.perm.trans (ordered_perm rows now).symm) h.ascending
      (ordered_strict hnames)
  · rintro rfl
    exact .of_strict (ordered_perm rows now) (ordered_strict hnames)

theorem ordered_congr {returned : List LivenessRow} (hnames : (rows.map (·.name)).Nodup)
    (h : returned.Perm rows) : ordered returned now = ordered rows now := by
  have hranked : Ranked now returned (ordered returned now) :=
    (ranked_iff ((h.map _).nodup_iff.mpr hnames)).mpr rfl
  exact (ranked_iff hnames).mp (.of_strict (hranked.perm.trans h) hranked.ascending)

-- -----------------------------------------------------------------------------
-- Listings
-- -----------------------------------------------------------------------------

/-- The listing of what the store reports, by its time, or by another clock where it tells none. -/
def ranking (report : List (String × Instant) × Option Instant) (clock : Instant) :
    List LivenessRow :=
  ordered (report.1.map fun (name, updated) => ⟨name, updated⟩) (report.2.getD clock)

def heads (entries : List Entry) : List LiveChannel :=
  entries.map fun entry => ⟨entry.name, entry.last⟩

theorem eq_nil_of_untimed {pictures : List (String × Instant)}
    (h : (run Channel.Registry.liveness w).1 = .ok (pictures, none)) : pictures = [] := by
  obtain ⟨⟨thumbs, time⟩, v, -, hrest⟩ := Act.bind_ok.mp (Act.run_eq h)
  obtain ⟨hpictures, htime⟩ := Prod.mk.inj (Except.ok.inj (Prod.mk.inj hrest).1)
  cases thumbs with
  | nil => exact hpictures.symm
  | cons => cases htime

theorem liveness_abreast : Alike (Abreast Eq) Channel.Registry.liveness := by
  have hdated : Paired (Abreast Eq) Eq Channel.Registry.datedThumbs
      Channel.Registry.datedThumbs := by
    refine Abreast.logged ((Abreast.send _).bind fun _ _ _ => ?_)
    refine Paired.bind (.look fun _ _ h => congrArg Store.Tables.announcedThumbs h.tables) ?_
    rintro rows _ rfl
    refine Paired.bind (.look fun _ _ h => h.storeClock) ?_
    rintro now _ rfl
    exact .of_alike ((Alike.forM _ (fun _ => .ofExcept _) rows).bind fun _ => .pure _)
  refine Paired.alike ((Channel.Call.session_abreast hdated).bind ?_)
  rintro found _ rfl
  exact .pure rfl

theorem run_orderedRows (w : World) (clock : Instant) :
    (run orderedRows w).1
      = (run (Channel.serving Channel.Registry.liveness) w).1.map (ranking · clock) := by
  rw [orderedRows, Act.run_bind, Channel.serving, Act.run_mapError]
  rcases hrun : run Channel.Registry.liveness w with ⟨e | ⟨pictures, time⟩, v⟩
  · rfl
  · cases time with
    | some time => rfl
    | none =>
      obtain rfl := eq_nil_of_untimed (congrArg Prod.fst hrun)
      have hempty (time : Instant) : ordered [] time = [] := List.mergeSort_nil
      exact congrArg Except.ok ((hempty v.clock).trans (hempty clock).symm)

theorem orderedRows_clock (w : World) (clock : Instant) :
    (run orderedRows { w with clock }).1 = (run orderedRows w).1 := by
  have habreast : Abreast Eq { w with clock } w := ⟨rfl, rfl, rfl, rfl, rfl, rfl, rfl⟩
  have hlist := (liveness_abreast.mapError (Channel.serviceError fun _ => none) habreast).1
  rw [run_orderedRows _ clock, run_orderedRows w clock]
  exact congrArg _ hlist

theorem run_listLive (w : World) :
    (run listLive w).1
      = (run orderedRows w).1.map (List.map fun row => ⟨row.name, row.updated.millis⟩) := by
  rw [listLive, Act.run_bind]
  rcases run orderedRows w with ⟨e | rows, v⟩ <;> rfl

theorem heads_list (w : World) (thumbBase liveBase : String) :
    (run (list thumbBase liveBase) w).1.map heads = (run listLive w).1 := by
  rw [run_listLive, list, Act.run_bind]
  rcases run orderedRows w with ⟨e | rows, v⟩
  · rfl
  · exact congrArg Except.ok List.map_map

theorem ranked_orderedRows (hkeys : w.tables.Unique) (listing : List LivenessRow)
    (h : (run orderedRows w).1 = .ok listing) :
    Ranked w.storeClock (announcedRows w.tables) listing := by
  obtain ⟨-, ⟨rfl, -⟩, -⟩ := orderedRows_commits.ok (Act.run_eq h)
  have hnames : ((announcedRows w.tables).map (·.name)).Nodup := by
    rw [announcedRows, List.map_map]
    exact List.pairwise_map.mpr
      ((Store.Tables.announcedThumbs_strict hkeys).imp fun h => ne_of_lt h)
  exact (ranked_iff hnames).mpr rfl

/-- Listings of channels are in one order. For all rows with different names and all times there is
one listing, whatever order the rows come in; and in every world, whatever fails there, a listing is
that of what the store reports, by the time of the store: the process may have any other. Both listings
show the same names and times, also when taken in two worlds with the same tables and time of the
store. -/
theorem listings_ranked :
    (∀ rows now, (rows.map (·.name)).Nodup →
      (∀ listing, Ranked now rows listing ↔ listing = ordered rows now)
      ∧ ∀ returned, returned.Perm rows → ordered returned now = ordered rows now)
    ∧ ∀ w : World,
      (w.tables.Unique → ∀ listing, (run orderedRows w).1 = .ok listing →
        Ranked w.storeClock (announcedRows w.tables) listing)
      ∧ (∀ clock, (run orderedRows w).1
        = (run (Channel.serving Channel.Registry.liveness) w).1.map (ranking · clock))
      ∧ (∀ pictures, (run Channel.Registry.liveness w).1 = .ok (pictures, none) → pictures = [])
      ∧ (∀ thumbBase liveBase,
        (run (list thumbBase liveBase) w).1.map heads = (run listLive w).1)
      ∧ (∀ clock, (run orderedRows { w with clock }).1 = (run orderedRows w).1
        ∧ ∀ thumbBase liveBase,
          (run (list thumbBase liveBase) { w with clock }).1.map heads = (run listLive w).1)
      ∧ ∀ w' : World, w'.tables = w.tables → w'.storeClock = w.storeClock →
        ∀ thumbBase liveBase channels entries, (run listLive w).1 = .ok channels →
          (run (list thumbBase liveBase) w').1 = .ok entries → heads entries = channels := by
  refine ⟨fun rows now hnames => ⟨fun _ => ranked_iff hnames, fun _ => ordered_congr hnames⟩,
    fun w => ⟨ranked_orderedRows, run_orderedRows w, fun _ => eq_nil_of_untimed, heads_list w,
      fun clock => ⟨orderedRows_clock w clock, fun thumbBase liveBase => ?_⟩, ?_⟩⟩
  · rw [heads_list, run_listLive, run_listLive, orderedRows_clock]
  intro w' htables hclock thumbBase liveBase channels entries hlive hlist
  obtain ⟨-, ⟨rfl, -⟩, -⟩ := listLive_commits.ok (Act.run_eq hlive)
  obtain ⟨-, ⟨hentries, -⟩, -⟩ := list_commits.ok (Act.run_eq hlist)
  rw [heads, hentries, shown, shown, htables, hclock]

/-- A picture of the future, one of a minute ago and one of a second ago are listed by name, then two
older ones, the newer one first. A store with two pictures is listed in that order too, in both
listings, although by the clock of the process the other picture is the fresher one; and an empty store
tells no time. -/
theorem listings_ranked_minute : ∃ (rows returned listing : List LivenessRow) (w w' empty : World)
    (found : List LivenessRow) (channels : List LiveChannel) (entries : List Entry),
    (rows.map (·.name)).Nodup ∧ returned.Perm rows ∧ ordered returned 0 = listing
    ∧ listing.map (·.name) = ["Zoe", "ann", "éva", "old", "Late"]
    ∧ w.tables.Unique ∧ w.tables.thumbs.length = 2 ∧ w'.tables = w.tables
    ∧ w'.storeClock = w.storeClock ∧ announcedRows w.tables = [⟨"ann", 0⟩, ⟨"éva", 5000000⟩]
    ∧ ordered (announcedRows w.tables) w.storeClock = [⟨"ann", 0⟩, ⟨"éva", 5000000⟩]
    ∧ ordered (announcedRows w.tables) w'.clock = [⟨"éva", 5000000⟩, ⟨"ann", 0⟩]
    ∧ (run orderedRows w).1 = .ok found ∧ Ranked w.storeClock (announcedRows w.tables) found
    ∧ (run orderedRows { w with clock := w'.clock }).1 = (run orderedRows w).1
    ∧ (run listLive w).1 = .ok channels ∧ (run (list "t" "l") w').1 = .ok entries
    ∧ heads entries = channels
    ∧ (run Channel.Registry.liveness empty).1 = .ok ([], none) := by
  let rows : List LivenessRow := [⟨"Late", -60000002⟩, ⟨"ann", -60000000⟩, ⟨"éva", -1000000⟩,
    ⟨"Zoe", 5000000⟩, ⟨"old", -60000001⟩]
  let listing : List LivenessRow := [⟨"Zoe", 5000000⟩, ⟨"ann", -60000000⟩, ⟨"éva", -1000000⟩,
    ⟨"old", -60000001⟩, ⟨"Late", -60000002⟩]
  let tables : Store.Tables := ⟨[⟨"o", true⟩], [⟨"o", "éva", "k", none, true⟩,
    ⟨"o", "ann", "k", none, true⟩], [⟨"ann", [1], 0⟩, ⟨"éva", [1], 5000000⟩]⟩
  let w := Store.holding tables
  let w' := { w with clock := 600000000, live := some ["ann"], log := [⟨.info, "later"⟩] }
  have hnames : (rows.map (·.name)).Nodup := by decide
  have hperm : listing.Perm rows := by decide
  have hstrict : listing.Pairwise fun a b => place 0 a < place 0 b := by decide
  have hkeys : w.tables.Unique := by constructor <;> decide
  have hdates : ∀ thumb ∈ tables.thumbs, Instant.dated thumb.updated = .ok () := by decide
  have hthumbs : tables.announcedThumbs = tables.thumbs := List.mergeSort_of_pairwise (by decide)
  have hannounced : announcedRows w.tables = [⟨"ann", 0⟩, ⟨"éva", 5000000⟩] :=
    congrArg (List.map _) hthumbs
  have hpictured : ((announcedRows w.tables).map (·.name)).Nodup := by
    rw [hannounced]
    decide
  obtain ⟨found, v, hfound⟩ := Service.exists_orderedRows (Store.calm_holding tables) rfl hdates
  obtain ⟨⟨channels, hlive⟩, -⟩ := Service.exists_shows (Store.calm_holding tables) rfl hdates
  have hcalm : Store.Calm w' := ⟨rfl, rfl, rfl⟩
  obtain ⟨entries, hlist⟩ := (Service.exists_shows hcalm rfl hdates).2 "t" "l"
  have hempty : (run Channel.Registry.liveness (Store.holding .empty)).1 = .ok ([], none) := by
    decide +kernel
  obtain ⟨horder, hworlds⟩ := listings_ranked
  obtain ⟨hone, hany⟩ := horder rows 0 hnames
  obtain ⟨hranked, -, -, -, hclock, hsame⟩ := hworlds w
  refine ⟨rows, rows.reverse, listing, w, w', _, found, channels, entries, hnames,
    List.reverse_perm rows, ?_, rfl, hkeys, rfl, rfl, rfl, hannounced, ?_, ?_,
    congrArg Prod.fst hfound, hranked hkeys _ (congrArg Prod.fst hfound), (hclock _).1, hlive, hlist,
    hsame w' rfl rfl "t" "l" _ _ hlive hlist, hempty⟩
  · rw [hany _ (List.reverse_perm rows), (hone listing).mp (.of_strict hperm hstrict)]
  · refine ((horder _ w.storeClock hpictured).1 _ |>.mp (.of_strict ?_ (by decide))).symm
    rw [hannounced]
  · refine ((horder _ w'.clock hpictured).1 _ |>.mp (.of_strict ?_ (by decide))).symm
    rw [hannounced]
    exact .swap _ _ _

-- -----------------------------------------------------------------------------
-- Times
-- -----------------------------------------------------------------------------

theorem updated_le {a b : LivenessRow} (h : staleness a now ≤ staleness b now)
    (hb : freshness < staleness b now) : b.updated ≤ a.updated := by
  rw [staleness_eq] at hb
  have hstale : freshness < now - b.updated :=
    (lt_max_iff.mp hb).resolve_right (lt_irrefl _)
  rw [staleness_eq, staleness_eq, max_eq_left hstale.le] at h
  exact (sub_le_sub_iff_left now).mp ((le_max_left _ _).trans h)

theorem pairwise_updated (rows : List LivenessRow) (now : Instant) :
    (ordered rows now).Pairwise fun a b => freshness < staleness b now → b.updated ≤ a.updated := by
  refine (pairwise_ordered rows now).imp fun h => updated_le ?_
  rw [place, place, Prod.Lex.toLex_le_toLex] at h
  rw [staleness_eq, staleness_eq]
  exact h.elim le_of_lt fun h => h.1.le

inductive Listed (w : World) : List LiveChannel → Prop
  | live {channels : List LiveChannel} (h : (run listLive w).1 = .ok channels) : Listed w channels
  | directory {thumbBase liveBase : String} {entries : List Entry}
    (h : (run (list thumbBase liveBase) w).1 = .ok entries) : Listed w (heads entries)

theorem Listed.eq_shown {channels : List LiveChannel} (h : Listed w channels) :
    channels = shown w := by
  cases h with
  | live h =>
    obtain ⟨-, ⟨rfl, -⟩, -⟩ := listLive_commits.ok (Act.run_eq h)
    rfl
  | directory h =>
    obtain ⟨-, ⟨hentries, -⟩, -⟩ := list_commits.ok (Act.run_eq h)
    exact hentries

/-- A listing shows some rows with their whole milliseconds. No row beyond the last minute is shown
with a later time than one above it. -/
structure Timed (now : Instant) (rows : List LivenessRow) (channels : List LiveChannel) : Prop where
  shown : channels = rows.map fun row => ⟨row.name, row.updated / 1000⟩
  descending : rows.Pairwise fun a b =>
    freshness < staleness b now → b.updated / 1000 ≤ a.updated / 1000

theorem Listed.timed {channels : List LiveChannel} (h : Listed w channels)
    (hrecent : ∀ row ∈ announcedRows w.tables, Recent row.updated) :
    ∃ rows, rows.Perm (announcedRows w.tables) ∧ Timed w.storeClock rows channels := by
  have hperm := ordered_perm (announcedRows w.tables) w.storeClock
  refine ⟨_, hperm, ?_, ?_⟩
  · rw [h.eq_shown, shown]
    refine List.map_congr_left fun row hrow => ?_
    rw [Instant.millis_eq (hrecent row (hperm.mem_iff.mp hrow))]
  · refine (pairwise_updated _ _).imp fun hle hstale => ?_
    exact Int.ediv_le_ediv (by decide) (hle hstale)

/-- From November 2004 to January 2038 the time of a picture is shown in exact milliseconds, although
it is the double nearest to a thousand times the double nearest to its seconds that is cut off. So
later times are not shown as earlier ones, and of two rows beyond the last minute the staler one is
not shown with a later time, in any listing of pictures from then. -/
theorem last_exact :
    (∀ t, Recent t → millis t = t / 1000 ∧ ∃ seconds product : Double,
      Nearest (t / 1000000) seconds ∧ Nearest (seconds.toRat * 1000) product
        ∧ millis t = product.truncate)
    ∧ (∀ s t, Recent s → Recent t → s ≤ t → millis s ≤ millis t)
    ∧ (∀ now (a b : LivenessRow), Recent a.updated → Recent b.updated →
      freshness < staleness b now → staleness a now ≤ staleness b now →
        millis b.updated ≤ millis a.updated)
    ∧ ∀ w channels, (∀ row ∈ announcedRows w.tables, Recent row.updated) → Listed w channels →
      ∃ rows, rows.Perm (announcedRows w.tables) ∧ Timed w.storeClock rows channels := by
  refine ⟨fun t ht => ?_, fun s t => Instant.millis_mono,
    fun now a b ha hb hstale hle => Instant.millis_mono hb ha (updated_le hle hstale),
    fun w channels hrecent h => h.timed hrecent⟩
  obtain ⟨hseconds, hproduct⟩ := Instant.nearest_millis ht
  exact ⟨Instant.millis_eq ht, Instant.seconds t, .ofRat ((Instant.seconds t).toRat * 1000),
    hseconds, hproduct, rfl⟩

/-- The first and the last of these times, and a listing of a picture a microsecond short of a
millisecond, behind one of that millisecond. -/
theorem last_exact_ends : ∃ (first last : Instant) (a b : LivenessRow) (w : World)
    (channels : List LiveChannel), Recent first ∧ Recent last ∧ first ≤ last
    ∧ millis first = 1099511628000 ∧ millis last = 2147483647999 ∧ millis first ≤ millis last
    ∧ freshness < staleness b w.storeClock ∧ staleness a w.storeClock ≤ staleness b w.storeClock
    ∧ b.updated = a.updated - 1 ∧ millis b.updated ≤ millis a.updated
    ∧ announcedRows w.tables = [a, b] ∧ Listed w channels
    ∧ ∃ rows, rows.Perm [a, b] ∧ Timed w.storeClock rows channels := by
  let a : LivenessRow := ⟨"ann", 1714564800000000⟩
  let b : LivenessRow := ⟨"bob", 1714564799999999⟩
  let tables : Store.Tables := ⟨[⟨"o", true⟩], [⟨"o", "ann", "k", none, true⟩,
    ⟨"o", "bob", "k", none, true⟩], [⟨"ann", [1], a.updated⟩, ⟨"bob", [1], b.updated⟩]⟩
  let w := { Store.holding tables with storeClock := 1714564900000000 }
  have hfirst : Recent 1099511628000000 := ⟨by decide, by decide⟩
  have hlast : Recent 2147483647999999 := ⟨by decide, by decide⟩
  have ha : Recent a.updated := ⟨by decide, by decide⟩
  have hb : Recent b.updated := ⟨by decide, by decide⟩
  have hthumbs : tables.announcedThumbs = tables.thumbs := List.mergeSort_of_pairwise (by decide)
  have hrows : announcedRows w.tables = [a, b] := congrArg (List.map _) hthumbs
  have hrecent : ∀ row ∈ announcedRows w.tables, Recent row.updated := by
    rw [hrows]
    simpa using ⟨ha, hb⟩
  have hdates : ∀ thumb ∈ tables.thumbs, Instant.dated thumb.updated = .ok () := by decide
  have hcalm : Store.Calm w := ⟨rfl, rfl, rfl⟩
  obtain ⟨⟨channels, hlive⟩, -⟩ := Service.exists_shows hcalm rfl hdates
  have hstale : freshness < staleness b w.storeClock := by decide
  have hle : staleness a w.storeClock ≤ staleness b w.storeClock := by decide
  obtain ⟨hexact, hmono, hpairs, hlistings⟩ := last_exact
  exact ⟨_, _, a, b, w, channels, hfirst, hlast, by decide, (hexact _ hfirst).1, (hexact _ hlast).1,
    hmono _ _ hfirst hlast (by decide), hstale, hle, rfl, hpairs _ a b ha hb hstale hle, hrows,
    .live hlive, hrows ▸ hlistings w channels hrecent (.live hlive)⟩

end OnAir.Directory
