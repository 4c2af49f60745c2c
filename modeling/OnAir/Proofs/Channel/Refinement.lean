import OnAir.Proofs.Channel.Model

/-!
# The registry is its model

Over a store that raises nothing of its own, each call of the registry ends as the model says, and
leaves tables whose maps are those of the model. So does every sequence of calls, with the clock set
to anything between them.
-/

namespace OnAir.Channel

open Act (run)
open Store (Calm Follows Query Tables checkStorable)

-- -----------------------------------------------------------------------------
-- Calls and their worlds
-- -----------------------------------------------------------------------------

def Call.act : Call → Act RegistryError Answer
  | channelsOf owner => .identities <$> Registry.channelsOf owner
  | create owner name => .identity <$> Registry.create owner name
  | setAnnounce owner name announce => (fun _ => .done) <$> Registry.setAnnounce owner name announce
  | setOwnerAnnounce owner announce => (fun _ => .done) <$> Registry.setOwnerAnnounce owner announce
  | delete owner name => (fun _ => .done) <$> Registry.delete owner name
  | find column value =>
    (fun found => .authorization found.1 found.2) <$> Registry.find column value
  | thumbnail name => .picture <$> Registry.thumbnail name
  | putThumbnail name picture => (fun _ => .done) <$> Registry.putThumbnail name picture
  | liveness => (fun listed => .liveness listed.1 listed.2) <$> Registry.liveness

/-- The registry makes its moves; the replies to its calls are kept. -/
def runMoves : List Move → World → List Reply × World
  | [], w => ([], w)
  | .call call :: moves, w =>
    let (reply, w) := run call.act w
    let (replies, w) := runMoves moves w
    (reply :: replies, w)
  | .clock time :: moves, w => runMoves moves { w with storeClock := time }

def model (w : World) : Model :=
  ⟨w.tables.maps, w.storeClock, w.random, w.runtime.refusal⟩

def Call.start (call : Call) (w : World) : World :=
  { w with random := skip w.random call.draws }

section
variable {w w' : World} {call : Call} {t : Tables} {e : RegistryError}

theorem model_eq (h : Follows (call.start w) t w') : model w' = (model w).after call t.maps := by
  rw [model, h.tables_eq, h.storeClock_eq, h.random_eq, h.runtime_eq]
  rfl

/-- A call ends with this reply, leaves these tables, and has drawn its bytes. -/
def Ends (call : Call) (w : World) (reply : Reply) (t : Tables) : Prop :=
  ∃ w', run call.act w = (reply, w') ∧ Follows (call.start w) t w'

theorem ends_refused (hw : Calm w) (h : (model w).admits call = .error e) :
    Ends call w (.error e) w.tables := by
  obtain ⟨raised, hcheck, rfl⟩ := mapError_error.mp h
  have single {query : Query} (hsingle : [query].forM (·.check w.runtime.refusal) = .error raised) :
      query.check w.runtime.refusal = .error raised := by
    cases hquery : query.check w.runtime.refusal <;> simp_all
  cases call with
  | create owner name =>
    obtain ⟨w', hrun, hw'⟩ := Registry.create_refused hw hcheck
    refine ⟨w', ?_, hw'⟩
    rw [Call.act, map_eq_pure_bind, Act.run_bind, hrun]
    rfl
  | channelsOf owner | find column value | thumbnail name =>
    exact (select_refused hw (single hcheck)).bind_error.map
  | setAnnounce owner name announce | setOwnerAnnounce owner announce | delete owner name
  | putThumbnail name picture =>
    exact (execute_refused hw (single hcheck)).bind_error.map
  | liveness =>
    have hlisted := single hcheck
    rw [Store.check_ok rfl] at hlisted
    cases hlisted

theorem texts_of_admitted (h : (model w).admits call = .ok ()) {query : Query}
    (hmem : query ∈ call.queries (secretAt w.random)) : query.texts.forM checkStorable = .ok () :=
  Store.texts_of_check (ok_of_mem (mapError_ok.mp h) hmem)

-- -----------------------------------------------------------------------------
-- Answers of the tables are answers of their maps
-- -----------------------------------------------------------------------------

theorem lists_channelsOf (ht : t.Unique) (owner : String) :
    Lists (channelsOf t.maps owner)
      ((t.channelsOf owner).map fun row => (row.name, row.entry)) where
  rising := List.pairwise_map.mpr (Tables.channelsOf_strict ht owner)
  mem_iff name entry := by
    simp only [List.mem_map, Tables.mem_channelsOf ht, channelsOf, Option.filter_eq_some_iff,
      decide_eq_true_eq, Prod.mk.injEq]
    constructor
    · rintro ⟨row, ⟨howner, hrow⟩, rfl, rfl⟩
      exact ⟨hrow, howner⟩
    · rintro ⟨hentry, howner⟩
      let row : Store.ChannelRow := ⟨entry.owner, name, entry.secret, entry.ftlId, entry.announce⟩
      exact ⟨row, ⟨howner, hentry⟩, rfl, rfl⟩

theorem lists_announcedThumbs (ht : t.Unique) :
    Lists (announcedThumbs t.maps) (t.announcedThumbs.map fun row => (row.name, row.entry)) where
  rising := List.pairwise_map.mpr (Tables.announcedThumbs_strict ht)
  mem_iff name entry := by
    simp only [List.mem_map, Tables.mem_announcedThumbs ht, announcedThumbs,
      Option.ite_none_right_eq_some, Prod.mk.injEq]
    constructor
    · rintro ⟨row, ⟨hthumb, hannounced⟩, rfl, rfl⟩
      exact ⟨hannounced, hthumb⟩
    · rintro ⟨hannounced, hthumb⟩
      exact ⟨⟨name, entry.1, entry.2⟩, ⟨hthumb, hannounced⟩, rfl, rfl⟩

theorem row?_eq_some (ht : t.Unique) {column : Column} {value : String}
    (row : Store.ChannelRow) :
    Registry.row? column value t = some row ↔ Has t.maps column value row.name row.entry := by
  cases column with
  | name =>
    rw [Registry.row?, Tables.channelNamed?, Store.find?_eq_some ht.names, Tables.mem_channels ht]
    rfl
  | ftlId =>
    rw [Registry.row?, Tables.channelWithFtlId?_eq_some ht.ftlIds, Tables.mem_channels ht]
    rfl

theorem distinct_maps (ht : t.Unique) : Distinct t.maps := by
  intro name name' entry entry' ftlId h h' hftl hftl'
  let row : Store.ChannelRow := ⟨entry.owner, name, entry.secret, entry.ftlId, entry.announce⟩
  let row' : Store.ChannelRow :=
    ⟨entry'.owner, name', entry'.secret, entry'.ftlId, entry'.announce⟩
  have hrow : row ∈ t.channels := (Tables.mem_channels ht).mpr h
  have hrow' : row' ∈ t.channels := (Tables.mem_channels ht).mpr h'
  exact congrArg (·.name) (Tables.ftlId_inj ht.ftlIds hrow hrow' hftl hftl')

-- -----------------------------------------------------------------------------
-- One call
-- -----------------------------------------------------------------------------

theorem ends_create {owner name : RawText} {result : Except RegistryError Identity}
    (h : ∃ w', run (Registry.create owner name) w = (result, w') ∧ Follows (drawn w) t w') :
    Ends (.create owner name) w (result.map .identity) t := by
  obtain ⟨w', hrun, hw'⟩ := h
  refine ⟨w', ?_, hw'⟩
  rw [Call.act, map_eq_pure_bind, Act.run_bind, hrun]
  cases result <;> rfl

theorem create_allowed {owner name : RawText} (hw : Calm w) (ht : w.tables.Unique)
    (h : [owner, name, .text (secretAt w.random)].forM checkStorable = .ok ()) :
    ∃ reply t, Ends (.create owner name) w reply t ∧ t.Unique
      ∧ (model w).Allows (.create owner name) reply t.maps := by
  have hchannels : (w.tables.addUser owner.filled).1.maps.channels = w.tables.maps.channels := by
    rw [Tables.maps_addUser]
    rfl
  cases hadd : (w.tables.addUser owner.filled).1.addChannel? owner.filled name.filled
      (secretAt w.random) with
  | none =>
    have htaken : (w.tables.maps.channels name.filled).isSome = true := by
      rw [Tables.addChannel?_eq_none, hchannels] at hadd
      exact hadd
    refine ⟨_, _, ends_create (Registry.create_conflict hw h htaken), ht, ?_⟩
    exact (if_pos htaken).mpr ⟨rfl, rfl⟩
  | some t =>
    have hfree : ¬(w.tables.maps.channels name.filled).isSome = true := by
      rw [← hchannels, ← Tables.addChannel?_eq_none, hadd]
      exact Option.some_ne_none t
    refine ⟨_, t, ends_create (Registry.create_added hw h hadd), (ht.addUser _).addChannel hadd, ?_⟩
    rw [Tables.maps_addChannel hadd, Tables.maps_addUser]
    exact (if_neg hfree).mpr ⟨rfl, rfl⟩

theorem find_allowed {column : Column} {value : RawText} (hw : Calm w) (ht : w.tables.Unique)
    (h : [value].forM checkStorable = .ok ()) :
    ∃ reply t, Ends (.find column value) w reply t ∧ t.Unique
      ∧ (model w).Allows (.find column value) reply t.maps := by
  refine ⟨_, _, (Registry.find_yields hw h).map, ht, rfl, ?_⟩
  cases hrow : Registry.row? column value.filled w.tables with
  | some row => exact .inl ⟨row.name, row.entry, (row?_eq_some ht row).mp hrow, rfl⟩
  | none =>
    refine .inr ⟨fun name entry hhas => ?_, rfl⟩
    let row : Store.ChannelRow := ⟨entry.owner, name, entry.secret, entry.ftlId, entry.announce⟩
    have hfound := (row?_eq_some ht row).mpr hhas
    rw [hrow] at hfound
    cases hfound

theorem ends_allowed (hw : Calm w) (ht : w.tables.Unique) (h : (model w).admits call = .ok ()) :
    ∃ reply t, Ends call w reply t ∧ t.Unique ∧ (model w).Allows call reply t.maps := by
  have htexts {query : Query} (hmem : query ∈ call.queries (secretAt w.random)) :
      query.texts.forM checkStorable = .ok () := texts_of_admitted h hmem
  cases call with
  | create owner name => exact create_allowed hw ht (htexts (.tail _ (.head _)))
  | find column value => exact find_allowed hw ht (htexts (.head _))
  | channelsOf owner =>
    refine ⟨_, _, (Registry.channelsOf_yields hw (htexts (.head _))).map, ht, rfl, _,
      lists_channelsOf ht owner.filled, ?_⟩
    rw [List.map_map]
    rfl
  | liveness =>
    refine ⟨_, _, (Registry.liveness_yields hw).map, ht, rfl, _, lists_announcedThumbs ht, ?_⟩
    rw [List.map_map]
    rfl
  | thumbnail name =>
    refine ⟨_, _, (Registry.thumbnail_yields hw (htexts (.head _))).map, ht, rfl, ?_⟩
    simp only [model, Tables.maps]
    cases w.tables.thumbNamed? name.filled <;> rfl
  | setAnnounce owner name announce =>
    refine ⟨_, _, (Registry.setAnnounce_yields hw ht (htexts (.head _))).map, ht.setChannel _ _ _, ?_⟩
    rw [Tables.maps_setChannel]
    by_cases howns : w.tables.maps.owns owner.filled name.filled = true
    · rw [if_pos howns, if_pos howns]
      exact (if_pos howns).mpr ⟨rfl, rfl⟩
    · rw [if_neg howns, if_neg howns]
      exact (if_neg howns).mpr ⟨rfl, rfl⟩
  | setOwnerAnnounce owner announce =>
    exact ⟨_, _, (Registry.setOwnerAnnounce_yields hw (htexts (.head _))).map, ht.setUser _ _, rfl,
      Tables.maps_setUser⟩
  | delete owner name =>
    exact ⟨_, _, (Registry.delete_yields hw (htexts (.head _))).map, ht.deleteChannel _ _, rfl,
      Tables.maps_deleteChannel ht⟩
  | putThumbnail name picture =>
    exact ⟨_, _, (Registry.putThumbnail_yields hw (htexts (.head _))).map, ht.setThumb _ _ _, rfl,
      Tables.maps_setThumb⟩

theorem serves_call (hw : Calm w) (ht : w.tables.Unique) (call : Call) :
    (model w).Serves call (run call.act w).1 (model (run call.act w).2)
      ∧ Calm (run call.act w).2 ∧ (run call.act w).2.tables.Unique := by
  have hstart : Calm (call.start w) := ⟨hw.faults, hw.isOpen, hw.tag⟩
  cases hadmitted : (model w).admits call with
  | error e =>
    obtain ⟨w', hrun, hw'⟩ := ends_refused hw hadmitted
    rw [hrun]
    refine ⟨?_, hw'.calm hstart, hw'.tables_eq ▸ ht⟩
    rw [Model.Serves, hadmitted]
    exact ⟨rfl, model_eq hw'⟩
  | ok u =>
    obtain ⟨reply, t, ⟨w', hrun, hw'⟩, hunique, hallows⟩ := ends_allowed hw ht hadmitted
    rw [hrun]
    refine ⟨?_, hw'.calm hstart, hw'.tables_eq ▸ hunique⟩
    rw [Model.Serves, hadmitted]
    exact ⟨t.maps, hallows, model_eq hw'⟩

theorem serves_iff (hw : Calm w) (ht : w.tables.Unique) {reply : Reply} {s : Model} :
    (model w).Serves call reply s
      ↔ reply = (run call.act w).1 ∧ s = model (run call.act w).2 := by
  have hserves := (serves_call hw ht call).1
  refine ⟨fun h => h.unique (distinct_maps ht) hserves, ?_⟩
  rintro ⟨rfl, rfl⟩
  exact hserves

-- -----------------------------------------------------------------------------
-- All calls
-- -----------------------------------------------------------------------------

theorem runMoves_keeps (moves : List Move) (hw : Calm w) (ht : w.tables.Unique) :
    Calm (runMoves moves w).2 ∧ (runMoves moves w).2.tables.Unique := by
  induction moves generalizing w with
  | nil => exact ⟨hw, ht⟩
  | cons move moves ih =>
    cases move with
    | clock time => exact ih ⟨hw.faults, hw.isOpen, hw.tag⟩ ht
    | call call =>
      obtain ⟨-, hcalm, hunique⟩ := serves_call hw ht call
      exact ih hcalm hunique

theorem run_iff (moves : List Move) (hw : Calm w) (ht : w.tables.Unique) {replies : List Reply}
    {s : Model} :
    (model w).Run moves replies s
      ↔ replies = (runMoves moves w).1 ∧ s = model (runMoves moves w).2 := by
  induction moves generalizing w replies with
  | nil =>
    constructor
    · rintro ⟨⟩
      exact ⟨rfl, rfl⟩
    · rintro ⟨rfl, rfl⟩
      exact .nil
  | cons move moves ih =>
    cases move with
    | clock time =>
      have hset : Calm { w with storeClock := time } := ⟨hw.faults, hw.isOpen, hw.tag⟩
      constructor
      · rintro (_ | _ | hrun)
        exact (ih hset ht).mp hrun
      · exact fun h => .clock ((ih hset ht).mpr h)
    | call call =>
      obtain ⟨hserves, hcalm, hunique⟩ := serves_call hw ht call
      constructor
      · rintro (_ | ⟨hserves', hrun⟩)
        obtain ⟨rfl, rfl⟩ := (serves_iff hw ht).mp hserves'
        obtain ⟨rfl, rfl⟩ := (ih hcalm hunique).mp hrun
        exact ⟨rfl, rfl⟩
      · rintro ⟨rfl, rfl⟩
        exact .call hserves ((ih hcalm hunique).mpr ⟨rfl, rfl⟩)

/-- Whatever calls are made, in whatever order and at whatever times, the registry replies what the
model replies, nothing else would do, and the keys of its tables still differ. Every new secret has
48 hexadecimal digits. -/
theorem runMoves_refines (moves : List Move) (hw : Calm w) (ht : w.tables.Unique) :
    (∀ replies s, (model w).Run moves replies s
        ↔ replies = (runMoves moves w).1 ∧ s = model (runMoves moves w).2)
      ∧ (runMoves moves w).2.tables.Unique
      ∧ ∀ identity, .ok (.identity identity) ∈ (runMoves moves w).1 →
          identity.secret.length = 48 ∧ ∀ c ∈ identity.secret.toList, Hex.isLower c = true := by
  refine ⟨fun replies s => run_iff moves hw ht, (runMoves_keeps moves hw ht).2, ?_⟩
  exact fun identity hmem => ((run_iff moves hw ht).mpr ⟨rfl, rfl⟩).secret hmem

end

/-- Two owners ask for one name: the second gets nothing, and has no say about the channel. -/
theorem runMoves_refines_contested : ∃ (w : World) (moves : List Move),
    Calm w ∧ w.tables.Unique
      ∧ (runMoves moves w).1 = [.ok (.identity ⟨"ann", "one", secretAt w.random, none, true⟩),
          .error (.conflict "create_channel"), .error (.notFound "one")]
      ∧ (∀ replies s, (model w).Run moves replies s
          ↔ replies = (runMoves moves w).1 ∧ s = model (runMoves moves w).2)
      ∧ (runMoves moves w).2.tables.Unique
      ∧ ∀ identity, .ok (.identity identity) ∈ (runMoves moves w).1 →
          identity.secret.length = 48 ∧ ∀ c ∈ identity.secret.toList, Hex.isLower c = true := by
  let w : World := Store.holding .empty
  let moves : List Move := [.call (.create "ann" "one"), .clock 5, .call (.create "bob" "one"),
    .call (.setAnnounce "bob" "one" false)]
  have hw : Calm w := Store.calm_holding _
  exact ⟨w, moves, hw, Tables.unique_empty, by decide +kernel,
    runMoves_refines moves hw Tables.unique_empty⟩

end OnAir.Channel
