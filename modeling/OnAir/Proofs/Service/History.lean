import OnAir.Proofs.Service.Run

/-!
# What a listing tells of the past

Calls are made one after the other from empty tables, by anybody and with any faults of the store;
between two calls the world may change in any way that leaves the tables alone. Then an owner's
switch is what the owner last set, a channel is announced if what its owner last did to it announced
it, and a picture is the one that was put last under its name. A listing is read off these three.

Pictures know nothing of channels but the name. What a deleted channel leaves behind is no longer
listed, but it is again once the name is given to another channel.
-/

namespace OnAir.Service

open Act (run)
open Directory (LiveChannel shown)
open Store (ChannelEntry Maps Tables)

-- -----------------------------------------------------------------------------
-- Records
-- -----------------------------------------------------------------------------

def Offers (m : Maps) (who name : String) : Prop :=
  ∃ entry, m.channels name = some entry ∧ entry.owner = who ∧ entry.announce = true

def Known (m : Maps) : Prop :=
  ∀ name entry, m.channels name = some entry → (m.owners entry.owner).isSome = true

section
variable {m : Maps} {who name : String}

theorem Known.setChannel {entry : Option ChannelEntry} (h : Known m)
    (hentry : ∀ c, entry = some c → (m.owners c.owner).isSome = true) :
    Known (m.setChannel name entry) := by
  intro n c hc
  by_cases hn : n = name
  · exact hentry c (by simpa [Maps.setChannel, hn] using hc)
  · exact h n c (by simpa [Maps.setChannel, hn] using hc)

theorem Known.setOwner {announce : Bool} (h : Known m) : Known (m.setOwner who announce) := by
  intro n c hc
  by_cases howner : c.owner = who
  · simp [Maps.setOwner, howner]
  · simpa [Maps.setOwner, howner] using h n c hc

end

/-- The maps are what the calls of the past have made of empty ones. -/
structure Records (publishDir : String) (past : List Entry) (m : Maps) : Prop where
  owners : ∀ who, m.owners who = some false ↔ Silenced publishDir who past
  channels : ∀ who name, Offers m who name ↔ Announced publishDir who name past
  thumbs : ∀ name picture time,
    m.thumbs name = some (picture, time) ↔ Pictured publishDir name picture time past
  known : Known m

section
variable {publishDir : String} {past : List Entry} {m m' : Maps} {e : Entry}

/-- A channel is offered from its creation and from each time it is announced, and no longer once it
is unannounced or deleted. -/
theorem Turn.offers_iff (hturn : Turn publishDir e m m') (who name : String) :
    Offers m' who name
      ↔ e.Opens publishDir who name ∨ ¬e.Closes publishDir who name ∧ Offers m who name := by
  have hfate := hturn.fate name
  simp only [Offers, Entry.Opens, Entry.Closes]
  generalize m.channels name = c at hfate
  generalize m'.channels name = c' at hfate
  cases hfate with
  | kept hcreate hset hdelete =>
    simp only [hcreate, hset, or_false, or_self, false_or]
    refine (and_iff_right_of_imp ?_).symm
    rintro ⟨entry, hentry, rfl, -⟩
    exact hdelete entry hentry
  | created hdid => simp [hdid]
  | @set entry announce hdid => cases announce <;> by_cases ha : entry.owner = who <;> simp [hdid, ha]
  | @deleted entry hdid => by_cases ha : entry.owner = who <;> simp [hdid, ha]

theorem Turn.thumbs_iff (hturn : Turn publishDir e m m') (name : String) (picture : Bytes)
    (time : Instant) :
    m'.thumbs name = some (picture, time)
      ↔ (e.Did publishDir (.putThumbnail (.text name) picture) ∧ e.world.storeClock = time)
        ∨ ¬e.Puts publishDir name ∧ m.thumbs name = some (picture, time) := by
  cases hturn with
  | still he =>
    have hnone (bytes : Bytes) : ¬e.Did publishDir (.putThumbnail (.text name) bytes) :=
      fun h => nomatch he _ h
    simp [Entry.Puts, hnone]
  | create hdid _ | setAnnounce hdid _ | setOwnerAnnounce hdid =>
    simp [Entry.Puts, hdid, Maps.setChannel, Maps.setOwner]
  | delete hdid => split <;> simp [Entry.Puts, hdid, Maps.setChannel]
  | @putThumbnail n bytes hdid =>
    by_cases hn : name = n
    · simp [Entry.Puts, hdid, Maps.setThumb, hn]
    · simp [Entry.Puts, hdid, Maps.setThumb, hn, Ne.symm hn]

theorem Turn.known (hturn : Turn publishDir e m m') (h : Known m) : Known m' := by
  cases hturn with
  | still => exact h
  | create =>
    refine h.setOwner.setChannel fun c hc => ?_
    cases hc
    simp [Maps.setOwner]
  | @setAnnounce _ name announce =>
    refine h.setChannel fun c hc => ?_
    obtain ⟨entry, hentry, rfl⟩ := Option.map_eq_some_iff.mp hc
    exact h name entry hentry
  | delete =>
    split
    · exact h.setChannel (by simp)
    · exact h
  | setOwnerAnnounce => exact h.setOwner
  | putThumbnail => exact h

theorem Run.records {w : World} (hrun : Run publishDir past w) :
    Records publishDir past w.tables.maps ∧ w.tables.Unique := by
  have hcourse := run_iff.mp hrun
  have hunique := Tables.unique_empty
  obtain ⟨hknown, hkeys⟩ := hcourse.keeps (P := fun _ m => Known m) hunique nofun
    fun _ _ _ _ h hturn => hturn.known h
  refine ⟨⟨fun who => ?_, fun who name => ?_, fun name picture time => ?_, hknown⟩, hkeys⟩
  · exact (hcourse.since hunique fun _ _ _ hturn => hturn.silent_iff who).2 nofun
  · exact (hcourse.since hunique fun _ _ _ hturn => hturn.offers_iff who name).2 nofun
  · exact (hcourse.since hunique fun _ _ _ hturn => hturn.thumbs_iff name picture time).2 nofun

end

-- -----------------------------------------------------------------------------
-- Listings
-- -----------------------------------------------------------------------------

def Call.lists : Call → Bool
  | listLive | list .. => true
  | _ => false

def Answer.shown : Answer → List LiveChannel
  | .live channels => channels
  | .entries items => items.map fun entry => ⟨entry.name, entry.last⟩
  | _ => []

section
variable {publishDir : String} {past : List Entry} {w : World} {call : Call} {answer : Answer}

theorem shown_eq (hlists : call.lists = true)
    (hanswer : (run (call.act publishDir) w).1 = .ok answer) : answer.shown = shown w := by
  cases call with
  | listLive =>
    rw [Call.act, map_eq_pure_bind] at hanswer
    obtain ⟨channels, v, hlist, hdone⟩ := Act.bind_ok.mp (Act.run_eq hanswer)
    obtain ⟨t, ⟨hshown, -⟩, -⟩ := (Directory.listLive_commits.mapError _).ok hlist
    cases hdone
    exact hshown
  | list thumbBase liveBase =>
    rw [Call.act, map_eq_pure_bind] at hanswer
    obtain ⟨entries, v, hlist, hdone⟩ := Act.bind_ok.mp (Act.run_eq hanswer)
    obtain ⟨t, ⟨hshown, -⟩, -⟩ := (Directory.list_commits.mapError _).ok hlist
    cases hdone
    exact hshown
  | owner | byKey | byUrl | byChallenge | thumbnail | putThumbnail => cases hlists

theorem mem_shown (hkeys : w.tables.Unique) {name : String} {last : ℤ} :
    ⟨name, last⟩ ∈ shown w ↔ ∃ picture time, w.tables.maps.thumbs name = some (picture, time)
      ∧ (w.tables.maps.channels name).any w.tables.maps.announces = true
      ∧ last = Instant.millis time := by
  simp only [shown, Directory.ordered, Directory.announcedRows, List.mem_map, List.mem_mergeSort]
  constructor
  · rintro ⟨_, ⟨row, hrow, rfl⟩, heq⟩
    obtain ⟨hthumb, hannounced⟩ := (Tables.mem_announcedThumbs hkeys).mp hrow
    cases heq
    exact ⟨row.picture, row.updated, hthumb, hannounced, rfl⟩
  · rintro ⟨picture, time, hthumb, hannounced, rfl⟩
    have hrow : (⟨name, picture, time⟩ : Store.ThumbRow) ∈ w.tables.announcedThumbs :=
      (Tables.mem_announcedThumbs hkeys).mpr ⟨hthumb, hannounced⟩
    exact ⟨_, ⟨_, hrow, rfl⟩, rfl⟩

theorem Known.announces {m : Maps} (h : Known m) (name : String) :
    (m.channels name).any m.announces = true
      ↔ ∃ who, Offers m who name ∧ m.owners who ≠ some false := by
  rw [Option.any_eq_true]
  constructor
  · rintro ⟨entry, hentry, hannounced⟩
    obtain ⟨hown, howner⟩ := Bool.and_eq_true_iff.mp hannounced
    refine ⟨entry.owner, ⟨entry, hentry, rfl, hown⟩, fun hsilent => ?_⟩
    simp [hsilent] at howner
  · rintro ⟨who, ⟨entry, hentry, rfl, hown⟩, hheard⟩
    obtain ⟨announce, hswitch⟩ := Option.isSome_iff_exists.mp (h name entry hentry)
    cases announce with
    | false => exact absurd hswitch hheard
    | true => exact ⟨entry, hentry, by simp [Maps.announces, hown, hswitch]⟩

/-- A name is listed with a time just if the channel of this name is announced, by its owner's last
word on it and on all their channels, and the last picture of the name is from that time. -/
theorem listed_iff (hrun : Run publishDir past w) (hlists : call.lists = true)
    (hanswer : (run (call.act publishDir) w).1 = .ok answer) (name : String) (last : ℤ) :
    ⟨name, last⟩ ∈ answer.shown ↔ ∃ who picture time, Announced publishDir who name past
      ∧ ¬Silenced publishDir who past ∧ Pictured publishDir name picture time past
      ∧ last = Instant.millis time := by
  obtain ⟨hrecords, hkeys⟩ := hrun.records
  rw [shown_eq hlists hanswer, mem_shown hkeys]
  simp only [hrecords.known.announces, hrecords.thumbs, hrecords.channels, ne_eq, hrecords.owners]
  constructor
  · rintro ⟨picture, time, hpicture, ⟨who, hopen, hheard⟩, hlast⟩
    exact ⟨who, picture, time, hopen, hheard, hpicture, hlast⟩
  · rintro ⟨who, picture, time, hopen, hheard, hpicture, hlast⟩
    exact ⟨picture, time, hpicture, ⟨who, hopen, hheard⟩, hlast⟩

end

-- -----------------------------------------------------------------------------
-- Two runs
-- -----------------------------------------------------------------------------

/-- A channel is hidden and announced again: it is listed, with the last of its pictures. -/
theorem listed_iff_announced : ∃ past w, Run "" past w
    ∧ (run (Call.listLive.act "") w).1 = .ok (.live [⟨"show", 10800000⟩])
    ∧ ∃ who picture time, Announced "" who "show" past ∧ ¬Silenced "" who past
      ∧ Pictured "" "show" picture time past ∧ 10800000 = Instant.millis time := by
  let calls : List Call := [.owner "ann" (.create "show"), .putThumbnail "show" [1],
    .owner "ann" (.setAnnounce "show" false), .putThumbnail "show" [2],
    .owner "ann" (.setAnnounce "show" true)]
  have hrun : Run "" (hourly calls ([], fresh)).1 (hourly calls ([], fresh)).2 :=
    (Run.start fresh rfl).hourly (s := ([], fresh)) calls rfl
  have hlisted : (run (Call.listLive.act "") (hourly calls ([], fresh)).2).1
      = .ok (.live [⟨"show", 10800000⟩]) := by decide +kernel
  exact ⟨_, _, hrun, hlisted,
    (listed_iff hrun rfl hlisted "show" 10800000).mp (List.mem_singleton.mpr rfl)⟩

/-- A picture outlives its channel: a name can be listed whose channel was created after the last
picture was put. -/
theorem listed_from_before : ¬∀ (publishDir : String) (past : List Entry) (w : World) (call : Call)
    (answer : Answer), Run publishDir past w → call.lists = true →
    (run (call.act publishDir) w).1 = .ok answer → ∀ channel ∈ answer.shown,
      Since (Entry.Puts publishDir channel.name) (Entry.Creates publishDir channel.name) past := by
  intro hclaim
  let before : List Call := [.owner "ann" (.create "show"), .putThumbnail "show" [1],
    .owner "ann" (.delete "show")]
  let again : Call := .owner "bob" (.create "show")
  have hrun : Run "" (hourly (before ++ [again]) ([], fresh)).1
      (hourly (before ++ [again]) ([], fresh)).2 :=
    (Run.start fresh rfl).hourly (s := ([], fresh)) _ rfl
  have hlisted : (run (Call.listLive.act "") (hourly (before ++ [again]) ([], fresh)).2).1
      = .ok (.live [⟨"show", 3600000⟩]) := by decide +kernel
  have hpast : (hourly (before ++ [again]) ([], fresh)).1
      = (hourly before ([], fresh)).1 ++ [⟨(hourly before ([], fresh)).2, again⟩] := rfl
  have hsince := hclaim "" _ _ .listLive _ hrun rfl hlisted ⟨"show", 3600000⟩
    (List.mem_singleton.mpr rfl)
  rw [hpast, since_snoc] at hsince
  rcases hsince with ⟨picture, hput, -⟩ | ⟨hcreate, -⟩
  · cases hput
  · have hcreated : (run (again.act "") (hourly before ([], fresh)).2).1
        = .ok (.definition (.ofIdentity ⟨"bob", "show",
          Channel.secretAt (hourly before ([], fresh)).2.random, none, true⟩ "")) := by
      decide +kernel
    exact hcreate ⟨"bob", rfl, _, hcreated⟩

end OnAir.Service
