import OnAir.Proofs.Ingest.Verdict
import OnAir.Proofs.Service.Calls

/-!
# Who is announced

The media engine is told whether a channel is announced when its publisher is let in, and viewers are
shown the announced channels that have a picture. The two look at different tables first, and they
agree on every channel.
-/

namespace OnAir.Service

open Act (run)
open Directory (LiveChannel announcedRows orderedRows)
open Ingest (Attempt)
open Store (Calm ChannelRow Tables ThumbRow Yields)

variable {w : World} {names : List String}

-- -----------------------------------------------------------------------------
-- Viewers
-- -----------------------------------------------------------------------------

inductive Shows (w : World) : List String → Prop
  | live {channels : List LiveChannel} (h : (run Directory.listLive w).1 = .ok channels) :
    Shows w (channels.map (·.name))
  | directory {thumbBase liveBase : String} {entries : List Directory.Entry}
    (h : (run (Directory.list thumbBase liveBase) w).1 = .ok entries) :
    Shows w (entries.map (·.name))

theorem Shows.eq (h : Shows w names) : names = (Directory.shown w).map (·.name) := by
  cases h with
  | live h =>
    obtain ⟨t, ⟨rfl, -⟩, -⟩ := Directory.listLive_commits.ok (Act.run_eq h)
    rfl
  | directory h =>
    obtain ⟨t, ⟨hshown, -⟩, -⟩ := Directory.list_commits.ok (Act.run_eq h)
    rw [← hshown, List.map_map]
    rfl

theorem shown_perm (w : World) :
    ((Directory.shown w).map (·.name)).Perm (w.tables.announcedThumbs.map (·.name)) := by
  have hperm : (Directory.ordered (announcedRows w.tables) w.storeClock).Perm (announcedRows w.tables) :=
    List.mergeSort_perm _ _
  simpa [Directory.shown, announcedRows, Function.comp_def] using hperm.map (·.name)

theorem nodup_shown (hkeys : w.tables.Unique) : ((Directory.shown w).map (·.name)).Nodup := by
  rw [(shown_perm w).nodup_iff, List.Nodup, List.pairwise_map]
  exact (Tables.announcedThumbs_strict hkeys).imp fun h => ne_of_lt h

theorem mem_thumbs (t : Tables) {thumb : ThumbRow} (h : thumb ∈ t.announcedThumbs) :
    thumb ∈ t.thumbs := by
  rw [Tables.announcedThumbs_eq] at h
  exact (List.mem_filter.mp (Text.mem_sortBy.mp h)).1

/-- The statement that lists pictures and the one that finds a channel agree: a picture counts just
if the publisher of its channel is told that the channel is announced. -/
theorem mem_announcedThumbs_iff {t : Tables} (hkeys : t.Findable) {thumb : ThumbRow} :
    thumb ∈ t.announcedThumbs ↔ thumb ∈ t.thumbs ∧ ∃ row ∈ t.channels, row.name = thumb.name
      ∧ (Channel.Registry.authorize row (t.userNamed? row.owner)).announced = true := by
  rw [Tables.announcedThumbs_eq, Text.mem_sortBy, List.mem_filter, Option.any_eq_true]
  refine and_congr_right fun _ => exists_congr fun row => ?_
  have hfound : t.channelNamed? thumb.name = some row
      ↔ row ∈ t.channels ∧ row.name = thumb.name :=
    Store.find?_eq_some hkeys.names
  rw [hfound, and_assoc, Channel.Registry.authorize_owner]

theorem mem_shown_iff (hkeys : w.tables.Findable) {name : String} :
    name ∈ (Directory.shown w).map (·.name) ↔ (∃ thumb ∈ w.tables.thumbs, thumb.name = name)
      ∧ ∃ row ∈ w.tables.channels, row.name = name ∧ w.tables.announced row = true := by
  rw [(shown_perm w).mem_iff, List.mem_map]
  simp only [mem_announcedThumbs_iff hkeys, Channel.Registry.authorize_owner]
  constructor
  · rintro ⟨thumb, ⟨hthumb, hcounts⟩, rfl⟩
    exact ⟨⟨thumb, hthumb, rfl⟩, hcounts⟩
  · rintro ⟨⟨thumb, hthumb, rfl⟩, hcounts⟩
    exact ⟨thumb, ⟨hthumb, hcounts⟩, rfl⟩

theorem exists_orderedRows (hw : Calm w) (hclock : Instant.dated w.storeClock = .ok ())
    (hdates : ∀ thumb ∈ w.tables.thumbs, Instant.dated thumb.updated = .ok ()) :
    ∃ rows v, run orderedRows w = (.ok rows, v) := by
  have htimes : ∀ time ∈ w.tables.announcedThumbs.map (·.updated),
      Instant.dated time = .ok () := by
    intro time htime
    obtain ⟨thumb, hthumb, rfl⟩ := List.mem_map.mp htime
    exact hdates thumb (mem_thumbs _ hthumb)
  have hlist := (Channel.Registry.liveness_yields hw).mapError
    (Channel.serviceError fun _ => none)
  rw [Channel.Registry.listing, List.map_map] at hlist
  change Yields _ w ((((Channel.Registry.checkTimes
    (w.tables.announcedThumbs.map (·.updated)) w.storeClock).mapError _).map _).mapError _) _ at hlist
  rw [Channel.Registry.checkTimes_ok hclock htimes] at hlist
  obtain ⟨v, hrun, -⟩ := hlist
  exact ⟨_, _, Act.bind_ok.mpr ⟨_, v, hrun, rfl⟩⟩

/-- Both listings are answered where the times of the pictures and of the store are dates. -/
theorem exists_shows (hw : Calm w) (hclock : Instant.dated w.storeClock = .ok ())
    (hdates : ∀ thumb ∈ w.tables.thumbs, Instant.dated thumb.updated = .ok ()) :
    (∃ channels, (run Directory.listLive w).1 = .ok channels)
      ∧ ∀ thumbBase liveBase, ∃ entries,
        (run (Directory.list thumbBase liveBase) w).1 = .ok entries := by
  obtain ⟨rows, v, hrun⟩ := exists_orderedRows hw hclock hdates
  have hlive : run Directory.listLive w = _ := Act.bind_ok.mpr ⟨rows, v, hrun, rfl⟩
  refine ⟨⟨_, congrArg Prod.fst hlive⟩, fun thumbBase liveBase => ?_⟩
  have hlist : run (Directory.list thumbBase liveBase) w = _ :=
    Act.bind_ok.mpr ⟨rows, v, hrun, rfl⟩
  exact ⟨_, congrArg Prod.fst hlist⟩

-- -----------------------------------------------------------------------------
-- The registry and the media engine
-- -----------------------------------------------------------------------------

/-- Whoever asks for a channel, and whoever publishes to it, is told this about its
announcement. -/
structure Tells (w : World) (row : ChannelRow) (announced : Bool) : Prop where
  find : ∀ auth secret, (run (Channel.Registry.find .name row.name) w).1 = .ok (auth, secret) →
    auth.announced = announced
  byKey : ∀ key auth, (run (Ingest.byKey row.name key) w).1 = .ok auth →
    auth.announced = announced
  byChallenge : ∀ ftlId nonce digest auth, row.ftlId = some ftlId →
    (run (Ingest.byChallenge ftlId nonce digest) w).1 = .ok auth → auth.announced = announced

variable {row : ChannelRow}

theorem find_ends (hw : Calm w) (hkeys : w.tables.Findable) (hrow : row ∈ w.tables.channels) :
    (run (Channel.Registry.find .name row.name) w).1
        = .ok (Ingest.authorization w.tables row, row.secret)
      ∨ (run (Channel.Registry.find .name row.name) w).1 = .error (.unavailable "find_channel") := by
  by_cases hzero : '\x00' ∈ row.name.toList
  · have hcode := Store.zero_mem_codes.mpr hzero
    exact .inr (Channel.Registry.find_zero .name hw hcode).result_eq
  · have hname := Store.checkStorable_text.mpr hzero
    have hfound : Channel.Registry.row? .name row.name w.tables = some row :=
      (Channel.row?_eq_some_iff hkeys).mpr ⟨hrow, rfl⟩
    exact .inl (Channel.Registry.find_found .name hw hname hfound).result_eq

/-- Who is let in to a channel with the name or the number of a row is let in to this row. -/
theorem tells (hw : Calm w) (hkeys : w.tables.Findable) (hrow : row ∈ w.tables.channels) :
    Tells w row (w.tables.announced row) where
  find auth secret h := by
    rcases find_ends hw hkeys hrow with hfound | hmissed
    · cases h.symm.trans hfound
      rfl
    · cases h.symm.trans hmissed
  byKey key auth h := by
    obtain ⟨other, hother, hfits, rfl⟩ := Attempt.let_in (.key row.name key) h
    have hname : Channel.Column.name.Holds row.name other := (RawText.text.inj hfits.1).symm
    rw [hname.unique hkeys hother hrow rfl]
    rfl
  byChallenge ftlId nonce digest auth hid h := by
    obtain ⟨other, hother, ⟨⟨id, hid', heq⟩, -⟩, rfl⟩ :=
      Attempt.let_in (.challenge ftlId nonce digest) h
    cases heq
    have hnumber : Channel.Column.ftlId.Holds ftlId other := hid'
    rw [hnumber.unique hkeys hother hrow hid]
    rfl

-- -----------------------------------------------------------------------------
-- Agreement
-- -----------------------------------------------------------------------------

/-- The registry, the media engine and the viewers are told the same about every channel: a name is
shown, and shown once, just if it has a picture and is the name of a channel that is told to be
announced. What cannot be found is not shown. Where all times are dates the viewers are shown
something. -/
theorem announcement_agrees (hw : Calm w) (hkeys : w.tables.Unique) :
    (∀ row ∈ w.tables.channels, Tells w row (w.tables.announced row))
      ∧ (∀ names, Shows w names → names.Nodup
        ∧ (∀ name, name ∈ names ↔ (∃ thumb ∈ w.tables.thumbs, thumb.name = name)
          ∧ ∃ row ∈ w.tables.channels, row.name = name ∧ w.tables.announced row = true)
        ∧ ∀ name ∈ names,
          (∀ key, (run (Channel.Registry.find .name name) w).1 ≠ .error (.notFound key))
          ∧ ∀ auth secret, (run (Channel.Registry.find .name name) w).1 = .ok (auth, secret) →
            auth.announced = true)
      ∧ (Instant.dated w.storeClock = .ok () →
        (∀ thumb ∈ w.tables.thumbs, Instant.dated thumb.updated = .ok ()) →
          (∃ channels, (run Directory.listLive w).1 = .ok channels)
          ∧ ∀ thumbBase liveBase, ∃ entries,
            (run (Directory.list thumbBase liveBase) w).1 = .ok entries) := by
  refine ⟨fun row hrow => tells hw hkeys.findable hrow, fun names hnames => ?_, exists_shows hw⟩
  obtain rfl := hnames.eq
  refine ⟨nodup_shown hkeys, fun name => mem_shown_iff hkeys.findable, fun name hname => ?_⟩
  obtain ⟨-, row, hrow, rfl, hannounced⟩ := (mem_shown_iff hkeys.findable).mp hname
  refine ⟨fun key hmissed => ?_, fun auth secret hfound => ?_⟩
  · rcases find_ends hw hkeys.findable hrow with hend | hend <;> cases hmissed.symm.trans hend
  · rw [(tells hw hkeys.findable hrow).find auth secret hfound, hannounced]

/-- Of five names with pictures one is shown: the others are those of a channel that is switched off,
of one whose owner is switched off, of one whose owner has no row, and of no channel. -/
theorem announcement_agrees_mixed : ∃ (w : World) (row : ChannelRow), row ∈ w.tables.channels
    ∧ Tells w row true ∧ Shows w ["show"] ∧ "show" ∈ ["show"]
    ∧ ∀ auth secret, (run (Channel.Registry.find .name "show") w).1 = .ok (auth, secret) →
      auth.announced = true := by
  let row : ChannelRow := ⟨"ann", "show", "k", some "7", true⟩
  let tables : Tables := ⟨[⟨"ann", true⟩, ⟨"bob", false⟩],
    [row, ⟨"ann", "off", "k", none, false⟩, ⟨"bob", "mute", "k", none, true⟩,
      ⟨"carl", "new", "k", none, true⟩],
    [⟨"show", [1], 0⟩, ⟨"off", [1], 0⟩, ⟨"mute", [1], 0⟩, ⟨"new", [1], 0⟩, ⟨"ghost", [1], 0⟩]⟩
  let w := Store.holding tables
  have hkeys : w.tables.Unique := by constructor <;> decide
  have hshows : Shows w ["show"] := by
    have hlive : (run Directory.listLive w).1 = .ok [⟨"show", 0⟩] := by decide +kernel
    exact .live hlive
  obtain ⟨htells, hlistings, -⟩ := announcement_agrees (Store.calm_holding tables) hkeys
  obtain ⟨-, hmem, hfound⟩ := hlistings _ hshows
  have hrow : row ∈ w.tables.channels := List.mem_cons_self
  have hname : "show" ∈ ["show"] := (hmem "show").mpr
    ⟨⟨_, List.mem_cons_self, rfl⟩, row, hrow, rfl, rfl⟩
  exact ⟨w, row, hrow, htells row hrow, hshows, hname, (hfound _ hname).2⟩

end OnAir.Service
