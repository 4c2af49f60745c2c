import Mathlib
import OnAir.Proofs.Store.Statement
import OnAir.Proofs.Text.Order

/-!
# Tables as maps

Tables whose keys differ are three maps: owners to their switch, names to channels, names to
pictures. Every change of the tables is a change of one map at one key, and every answer is
determined by the maps; in which order the rows are stored does not matter.
-/

namespace OnAir.Store

open Function (update)

-- -----------------------------------------------------------------------------
-- Rows with keys
-- -----------------------------------------------------------------------------

section
variable {ρ κ : Type} [DecidableEq κ] {key : ρ → κ} {rows : List ρ} {k : κ} {row : ρ}

theorem exists_row (h : rows.any (fun r => key r = k) = true) :
    ∃ row, rows.find? (fun r => key r = k) = some row ∧ key row = k := by
  obtain ⟨row, hrow⟩ := Option.isSome_iff_exists.mp (List.find?_isSome.mpr (List.any_eq_true.mp h))
  exact ⟨row, hrow, by simpa using List.find?_some hrow⟩

theorem find?_eq_some (h : (rows.map key).Nodup) :
    rows.find? (fun r => key r = k) = some row ↔ row ∈ rows ∧ key row = k := by
  refine ⟨fun hfound => ⟨List.mem_of_find?_eq_some hfound, by
    simpa using List.find?_some hfound⟩, fun ⟨hmem, hkey⟩ => ?_⟩
  cases hfound : rows.find? (fun r => key r = k) with
  | none => exact absurd hkey (by simpa using List.find?_eq_none.mp hfound row hmem)
  | some other =>
    have hother : key other = k := by simpa using List.find?_some hfound
    exact congrArg some (List.inj_on_of_nodup_map h (List.mem_of_find?_eq_some hfound) hmem
      (hother.trans hkey.symm))

theorem find?_append_row (key : ρ → κ) (row : ρ)
    (h : rows.any (fun r => key r = key row) = false) (k : κ) :
    (rows ++ [row]).find? (fun r => key r = k)
      = update (fun k => rows.find? fun r => key r = k) (key row) (some row) k := by
  rw [List.find?_append, Function.update_apply]
  split
  next hk =>
    subst hk
    have hnone : rows.find? (fun r => key r = key row) = none := by
      rw [List.find?_eq_none]
      simpa using h
    simp only [hnone, Option.none_or]
    simp
  next hk => simp [Ne.symm hk]

theorem find?_map_row {f : ρ → ρ} (hf : ∀ r, key (f r) = key r) :
    (rows.map f).find? (fun r => key r = k) = (rows.find? fun r => key r = k).map f := by
  rw [List.find?_map]
  simp only [Function.comp_def, hf]

theorem find?_set_row {f : ρ → ρ} (key : ρ → κ) (k₀ : κ) (hf : ∀ r, key (f r) = key r)
    (hother : ∀ r, key r ≠ k₀ → f r = r) (k : κ) :
    (rows.map f).find? (fun r => key r = k)
      = update (fun k => rows.find? fun r => key r = k) k₀
          ((rows.find? fun r => key r = k₀).map f) k := by
  rw [find?_map_row hf, Function.update_apply]
  split
  next hk => rw [hk]
  next hk =>
    cases hfound : rows.find? (fun r => key r = k) with
    | none => rfl
    | some r =>
      have hr : key r = k := by simpa using List.find?_some hfound
      rw [Option.map_some, hother r (hr ▸ hk)]

theorem find?_filter_row {p : ρ → Bool} (k₀ : κ) (h : (rows.map key).Nodup)
    (hother : ∀ r, key r ≠ k₀ → p r = true) (k : κ) :
    (rows.filter p).find? (fun r => key r = k)
      = update (fun k => rows.find? fun r => key r = k) k₀
          ((rows.find? fun r => key r = k₀).filter p) k := by
  have hfilter : ((rows.filter p).map key).Nodup := (List.filter_sublist.map key).nodup h
  ext row
  rw [Function.update_apply, find?_eq_some hfilter, List.mem_filter]
  split
  next hk => rw [hk, Option.filter_eq_some_iff, find?_eq_some h, and_right_comm]
  next hk =>
    rw [find?_eq_some h]
    refine ⟨fun ⟨⟨hmem, _⟩, hkey⟩ => ⟨hmem, hkey⟩, fun ⟨hmem, hkey⟩ => ⟨⟨hmem, ?_⟩, hkey⟩⟩
    exact hother row (hkey ▸ hk)

theorem countP_row (p : ρ → Bool) (k : κ) (h : (rows.map key).Nodup) :
    rows.countP (fun r => p r && decide (key r = k))
      = if (rows.find? fun r => key r = k).any p then 1 else 0 := by
  induction rows with
  | nil => rfl
  | cons r rest ih =>
    rw [List.map_cons, List.nodup_cons] at h
    by_cases hr : key r = k
    · have hrest : rest.countP (fun r => p r && decide (key r = k)) = 0 := by
        rw [List.countP_eq_zero]
        intro r' hr' hp
        simp only [Bool.and_eq_true, decide_eq_true_eq] at hp
        exact h.1 (List.mem_map.mpr ⟨r', hr', hp.2.trans hr.symm⟩)
      simp [List.countP_cons, hrest, hr]
    · simp [hr, ih h.2]

theorem nodup_append_row (hnodup : (rows.map key).Nodup)
    (h : rows.any (fun r => key r = key row) = false) : ((rows ++ [row]).map key).Nodup := by
  rw [List.map_append, List.map_singleton, List.nodup_append]
  refine ⟨hnodup, List.nodup_singleton _, ?_⟩
  intro a ha b hb
  rw [List.mem_singleton.mp hb]
  rintro rfl
  obtain ⟨r, hr, hkey⟩ := List.mem_map.mp ha
  simp only [List.any_eq_false, decide_eq_true_eq] at h
  exact h r hr hkey

omit [DecidableEq κ] in
theorem map_key_map {f : ρ → ρ} (hf : ∀ r, key (f r) = key r) :
    (rows.map f).map key = rows.map key := by
  rw [List.map_map]
  exact List.map_congr_left fun r _ => hf r

end

-- -----------------------------------------------------------------------------
-- The maps
-- -----------------------------------------------------------------------------

structure ChannelEntry where
  owner : String
  secret : String
  ftlId : Option String
  announce : Bool
  deriving DecidableEq, Repr

/-- The contents of the store by key. -/
structure Maps where
  owners : String → Option Bool
  channels : String → Option ChannelEntry
  thumbs : String → Option (Bytes × ℤ)

namespace Maps

def owns (m : Maps) (owner name : String) : Bool :=
  (m.channels name).any (·.owner = owner)

/-- Whether a channel is announced: by its own switch and by its owner's, which must be set. -/
def announces (m : Maps) (entry : ChannelEntry) : Bool :=
  entry.announce && (m.owners entry.owner).getD false

def setOwner (m : Maps) (owner : String) (announce : Bool) : Maps :=
  { m with owners := update m.owners owner (some announce) }

def setChannel (m : Maps) (name : String) (entry : Option ChannelEntry) : Maps :=
  { m with channels := update m.channels name entry }

def setThumb (m : Maps) (name : String) (picture : Bytes) (time : ℤ) : Maps :=
  { m with thumbs := update m.thumbs name (some (picture, time)) }

theorem setChannel_self {m : Maps} {name : String} {entry : Option ChannelEntry}
    (h : m.channels name = entry) : m.setChannel name entry = m := by
  rw [setChannel, ← h, Function.update_eq_self]

end Maps

def ChannelRow.entry (row : ChannelRow) : ChannelEntry :=
  ⟨row.owner, row.secret, row.ftlId, row.announce⟩

def ThumbRow.entry (row : ThumbRow) : Bytes × ℤ :=
  (row.picture, row.updated)

namespace Tables

def maps (t : Tables) : Maps where
  owners := t.ownerAnnounce?
  channels name := (t.channelNamed? name).map ChannelRow.entry
  thumbs name := (t.thumbNamed? name).map ThumbRow.entry

/-- Keys differ within each table, and so do the FTL numbers that are given. -/
structure Unique (t : Tables) : Prop where
  owners : (t.users.map (·.owner)).Nodup
  names : (t.channels.map (·.name)).Nodup
  ftlIds : (t.channels.filterMap (·.ftlId)).Nodup
  thumbs : (t.thumbs.map (·.name)).Nodup

variable {t : Tables} {owner name secret : String} {announce : Bool}

theorem unique_empty : empty.Unique :=
  ⟨List.nodup_nil, List.nodup_nil, List.nodup_nil, List.nodup_nil⟩

theorem mem_channels (h : t.Unique) {row : ChannelRow} :
    row ∈ t.channels ↔ t.maps.channels row.name = some row.entry := by
  simp only [maps, channelNamed?, Option.map_eq_some_iff, find?_eq_some h.names]
  refine ⟨fun hmem => ⟨row, ⟨hmem, rfl⟩, rfl⟩, ?_⟩
  rintro ⟨row', ⟨hmem, hname⟩, hentry⟩
  have hrow : row' = row := by
    cases row
    cases row'
    simp only [ChannelRow.entry, ChannelEntry.mk.injEq] at hname hentry
    simp [hname, hentry]
  exact hrow ▸ hmem

theorem mem_thumbs (h : t.Unique) {row : ThumbRow} :
    row ∈ t.thumbs ↔ t.maps.thumbs row.name = some row.entry := by
  simp only [maps, thumbNamed?, Option.map_eq_some_iff, find?_eq_some h.thumbs]
  refine ⟨fun hmem => ⟨row, ⟨hmem, rfl⟩, rfl⟩, ?_⟩
  rintro ⟨row', ⟨hmem, hname⟩, hentry⟩
  have hrow : row' = row := by
    cases row
    cases row'
    simp only [ThumbRow.entry, Prod.mk.injEq] at hname hentry
    simp [hname, hentry]
  exact hrow ▸ hmem

-- -----------------------------------------------------------------------------
-- Changes of owners and pictures
-- -----------------------------------------------------------------------------

theorem owners_append (h : ¬t.users.any (·.owner = owner) = true) (announce : Bool) :
    maps { t with users := t.users ++ [(⟨owner, announce⟩ : UserRow)] }
      = t.maps.setOwner owner announce := by
  have howners (k : String) :
      ownerAnnounce? { t with users := t.users ++ [(⟨owner, announce⟩ : UserRow)] } k
        = update t.ownerAnnounce? owner (some announce) k := by
    simp only [ownerAnnounce?, userNamed?, find?_append_row UserRow.owner ⟨owner, announce⟩
      (Bool.eq_false_iff.mpr h), Function.update_apply]
    split <;> rfl
  simp only [maps, funext howners]
  rfl

theorem maps_addUser :
    (t.addUser owner).1.maps = t.maps.setOwner owner ((t.maps.owners owner).getD true) := by
  simp only [addUser]
  split
  next h =>
    obtain ⟨row, hrow, -⟩ := exists_row h
    have howner : t.maps.owners owner = some row.announce := by
      simp [maps, ownerAnnounce?, userNamed?, hrow]
    rw [howner, Option.getD_some, Maps.setOwner, ← howner, Function.update_eq_self]
  next h =>
    have howner : t.maps.owners owner = none := by
      simpa [maps, ownerAnnounce?, userNamed?] using h
    rw [howner, owners_append h]
    rfl

theorem maps_setUser : (t.setUser owner announce).maps = t.maps.setOwner owner announce := by
  simp only [setUser]
  split
  next h =>
    obtain ⟨row, hrow, hkey⟩ := exists_row h
    have howners : ownerAnnounce? { t with users := t.users.map fun row =>
          if row.owner = owner then { row with announce } else row }
        = update t.ownerAnnounce? owner (some announce) := by
      funext k
      simp only [ownerAnnounce?, userNamed?]
      rw [find?_set_row UserRow.owner owner (by intro r; split <;> rfl)
        (by intro r hr; simp [hr]), Function.update_apply, Function.update_apply, hrow]
      split
      · simp [hkey]
      · rfl
    simp only [maps, howners]
    rfl
  next h => exact owners_append h announce

theorem maps_setThumb {picture : Bytes} {now : ℤ} :
    (t.setThumb name picture now).maps = t.maps.setThumb name picture now := by
  simp only [setThumb]
  split
  next h =>
    obtain ⟨row, hrow, hkey⟩ := exists_row h
    have hthumbs (k : String) : (thumbNamed? { t with thumbs := t.thumbs.map fun row =>
          if row.name = name then ⟨name, picture, now⟩ else row } k).map ThumbRow.entry
        = update (fun k => (t.thumbNamed? k).map ThumbRow.entry) name (some (picture, now)) k := by
      simp only [thumbNamed?]
      rw [find?_set_row ThumbRow.name name
        (by intro r; split <;> simp_all) (by intro r hr; simp [hr]), Function.update_apply,
        Function.update_apply, hrow]
      split
      · simp [hkey, ThumbRow.entry]
      · rfl
    simp only [maps, funext hthumbs]
    rfl
  next h =>
    have hthumbs (k : String) : (thumbNamed? { t with
          thumbs := t.thumbs ++ [⟨name, picture, now⟩] } k).map ThumbRow.entry
        = update (fun k => (t.thumbNamed? k).map ThumbRow.entry) name (some (picture, now)) k := by
      simp only [thumbNamed?, find?_append_row ThumbRow.name ⟨name, picture, now⟩
        (Bool.eq_false_iff.mpr h), Function.update_apply]
      split <;> rfl
    simp only [maps, funext hthumbs]
    rfl

theorem Unique.addUser (h : t.Unique) (owner : String) : (t.addUser owner).1.Unique := by
  simp only [Tables.addUser]
  split
  · exact h
  next hnew =>
    exact ⟨nodup_append_row h.owners (Bool.eq_false_iff.mpr hnew), h.names, h.ftlIds, h.thumbs⟩

theorem Unique.setUser (h : t.Unique) (owner : String) (announce : Bool) :
    (t.setUser owner announce).Unique := by
  simp only [Tables.setUser]
  split
  · refine ⟨?_, h.names, h.ftlIds, h.thumbs⟩
    rw [map_key_map (by intro r; split <;> rfl)]
    exact h.owners
  next hnew =>
    exact ⟨nodup_append_row h.owners (Bool.eq_false_iff.mpr hnew), h.names, h.ftlIds, h.thumbs⟩

theorem Unique.setThumb (h : t.Unique) (name : String) (picture : Bytes) (now : ℤ) :
    (t.setThumb name picture now).Unique := by
  simp only [Tables.setThumb]
  split
  · refine ⟨h.owners, h.names, h.ftlIds, ?_⟩
    rw [map_key_map (by intro r; split <;> simp_all)]
    exact h.thumbs
  next hnew =>
    exact ⟨h.owners, h.names, h.ftlIds, nodup_append_row h.thumbs (Bool.eq_false_iff.mpr hnew)⟩

-- -----------------------------------------------------------------------------
-- Changes of channels
-- -----------------------------------------------------------------------------

theorem addChannel?_eq_none :
    t.addChannel? owner name secret = none ↔ (t.maps.channels name).isSome = true := by
  simp [addChannel?, maps, channelNamed?]

theorem maps_addChannel {t' : Tables} (h : t.addChannel? owner name secret = some t') :
    t'.maps = t.maps.setChannel name (some ⟨owner, secret, none, true⟩) := by
  simp only [addChannel?] at h
  split at h
  · cases h
  next hnew =>
    cases h
    have hchannels (k : String) : (channelNamed? { t with
          channels := t.channels ++ [⟨owner, name, secret, none, true⟩] } k).map ChannelRow.entry
        = update (fun k => (t.channelNamed? k).map ChannelRow.entry) name
            (some ⟨owner, secret, none, true⟩) k := by
      simp only [channelNamed?, find?_append_row ChannelRow.name
        ⟨owner, name, secret, none, true⟩ (Bool.eq_false_iff.mpr hnew),
        Function.update_apply]
      split <;> rfl
    simp only [maps, funext hchannels]
    rfl

theorem maps_mapChannel : (t.setChannel owner name announce).1.maps
    = t.maps.setChannel name ((t.maps.channels name).map fun entry =>
        if entry.owner = owner then { entry with announce } else entry) := by
  have hchannels (k : String) :
      (channelNamed? (t.setChannel owner name announce).1 k).map ChannelRow.entry
        = update (fun k => (t.channelNamed? k).map ChannelRow.entry) name
            (((t.channelNamed? name).map ChannelRow.entry).map fun entry =>
              if entry.owner = owner then { entry with announce } else entry) k := by
    simp only [channelNamed?, setChannel]
    rw [find?_set_row ChannelRow.name name (by intro r; split <;> rfl)
      (by intro r hr; simp [hr]), Function.update_apply, Function.update_apply]
    split
    · cases hfound : t.channels.find? (fun r => r.name = name) with
      | none => rfl
      | some row =>
        have hname : row.name = name := by simpa using List.find?_some hfound
        by_cases howner : row.owner = owner <;> simp [hname, howner, ChannelRow.entry]
    · rfl
  simp only [maps, funext hchannels]
  rfl

theorem maps_setChannel : (t.setChannel owner name announce).1.maps
    = if t.maps.owns owner name then
        t.maps.setChannel name ((t.maps.channels name).map fun entry => { entry with announce })
      else t.maps := by
  rw [maps_mapChannel, Maps.owns]
  cases hentry : t.maps.channels name with
  | none => simpa using Maps.setChannel_self hentry
  | some entry =>
    by_cases howner : entry.owner = owner
    · simp [howner]
    · simpa [howner] using Maps.setChannel_self hentry

theorem maps_filterChannel (h : t.Unique) : (t.deleteChannel owner name).1.maps
    = t.maps.setChannel name ((t.maps.channels name).filter fun entry => entry.owner ≠ owner) := by
  have hchannels (k : String) :
      (channelNamed? (t.deleteChannel owner name).1 k).map ChannelRow.entry
        = update (fun k => (t.channelNamed? k).map ChannelRow.entry) name
            (((t.channelNamed? name).map ChannelRow.entry).filter fun entry =>
              entry.owner ≠ owner) k := by
    simp only [channelNamed?, deleteChannel]
    rw [find?_filter_row name h.names
      (by intro r hr; simp [hr]), Function.update_apply, Function.update_apply]
    split
    · cases hfound : t.channels.find? (fun r => r.name = name) with
      | none => rfl
      | some row =>
        have hname : row.name = name := by simpa using List.find?_some hfound
        by_cases howner : row.owner = owner <;>
          simp [Option.filter, hname, howner, ChannelRow.entry]
    · rfl
  simp only [maps, funext hchannels]
  rfl

theorem maps_deleteChannel (h : t.Unique) : (t.deleteChannel owner name).1.maps
    = if t.maps.owns owner name then t.maps.setChannel name none else t.maps := by
  rw [maps_filterChannel h, Maps.owns]
  cases hentry : t.maps.channels name with
  | none => simpa using Maps.setChannel_self hentry
  | some entry =>
    by_cases howner : entry.owner = owner
    · simp [howner, Option.filter]
    · simpa [howner, Option.filter] using Maps.setChannel_self hentry

theorem countP_channel (h : t.Unique) (owner name : String) :
    (t.channels.countP fun row => row.owner = owner ∧ row.name = name)
      = if t.maps.owns owner name then 1 else 0 := by
  simp only [Bool.decide_and, countP_row (fun r => r.owner = owner) name
    h.names, Maps.owns, maps, channelNamed?, Option.any_map]
  rfl

theorem Unique.addChannel {t' : Tables} (h : t.Unique)
    (ht : t.addChannel? owner name secret = some t') : t'.Unique := by
  simp only [addChannel?] at ht
  split at ht
  · cases ht
  next hnew =>
    cases ht
    refine ⟨h.owners, nodup_append_row h.names (Bool.eq_false_iff.mpr hnew), ?_, h.thumbs⟩
    simpa using h.ftlIds

theorem Unique.setChannel (h : t.Unique) (owner name : String) (announce : Bool) :
    (t.setChannel owner name announce).1.Unique := by
  refine ⟨h.owners, ?_, ?_, h.thumbs⟩
  · simp only [Tables.setChannel]
    rw [map_key_map (by intro r; split <;> rfl)]
    exact h.names
  · simp only [Tables.setChannel, List.filterMap_map]
    have hftl : (ChannelRow.ftlId ∘ fun row : ChannelRow =>
        if row.owner = owner ∧ row.name = name then { row with announce } else row)
          = ChannelRow.ftlId := by
      funext row
      simp only [Function.comp_apply]
      split <;> rfl
    rw [hftl]
    exact h.ftlIds

theorem Unique.deleteChannel (h : t.Unique) (owner name : String) :
    (t.deleteChannel owner name).1.Unique :=
  ⟨h.owners, (List.filter_sublist.map _).nodup h.names,
    (List.filter_sublist.filterMap _).nodup h.ftlIds, h.thumbs⟩

-- -----------------------------------------------------------------------------
-- Answers
-- -----------------------------------------------------------------------------

theorem channelsOf_strict (h : t.Unique) (owner : String) :
    (t.channelsOf owner).Pairwise fun a b => a.name < b.name :=
  Text.sortBy_strict ((List.filter_sublist.map _).nodup h.names)

theorem mem_channelsOf (h : t.Unique) {row : ChannelRow} :
    row ∈ t.channelsOf owner
      ↔ row.owner = owner ∧ t.maps.channels row.name = some row.entry := by
  rw [channelsOf, Text.mem_sortBy, List.mem_filter, mem_channels h, decide_eq_true_iff, and_comm]

theorem announcedThumbs_strict (h : t.Unique) :
    t.announcedThumbs.Pairwise fun a b => a.name < b.name := by
  rw [announcedThumbs_eq]
  exact Text.sortBy_strict ((List.filter_sublist.map _).nodup h.thumbs)

theorem mem_announcedThumbs (h : t.Unique) {row : ThumbRow} :
    row ∈ t.announcedThumbs ↔ t.maps.thumbs row.name = some row.entry
      ∧ (t.maps.channels row.name).any t.maps.announces = true := by
  rw [announcedThumbs_eq, Text.mem_sortBy, List.mem_filter, mem_thumbs h]
  simp only [maps, Option.any_map]
  rfl

theorem ftlId_inj (h : (t.channels.filterMap (·.ftlId)).Nodup) {a b : ChannelRow}
    (ha : a ∈ t.channels) (hb : b ∈ t.channels) {ftlId : String} (haf : a.ftlId = some ftlId)
    (hbf : b.ftlId = some ftlId) : a = b := by
  have hdistinct := List.pairwise_filterMap.mp h
  by_contra hne
  have : Std.Symm fun a b : ChannelRow =>
      ∀ x, a.ftlId = some x → ∀ y, b.ftlId = some y → x ≠ y :=
    ⟨fun a b hab x hx y hy => (hab y hy x hx).symm⟩
  exact hdistinct.forall ha hb hne ftlId haf ftlId hbf rfl

theorem channelWithFtlId?_eq_some (h : (t.channels.filterMap (·.ftlId)).Nodup) {ftlId : String}
    {row : ChannelRow} :
    t.channelWithFtlId? ftlId = some row ↔ row ∈ t.channels ∧ row.ftlId = some ftlId := by
  refine ⟨fun hfound => ⟨List.mem_of_find?_eq_some hfound, by
    simpa using List.find?_some hfound⟩, fun ⟨hmem, hftl⟩ => ?_⟩
  cases hfound : t.channelWithFtlId? ftlId with
  | none => exact absurd hftl (by simpa using List.find?_eq_none.mp hfound row hmem)
  | some other =>
    have hother : other.ftlId = some ftlId := by simpa using List.find?_some hfound
    rw [ftlId_inj h (List.mem_of_find?_eq_some hfound) hmem hother hftl]

end Tables
end OnAir.Store
