import OnAir.Proofs.Store.Beside
import OnAir.Proofs.Store.Maps

/-!
# Rows of owners

What an owner's statements leave alone, and what they depend on. They keep all rows of others, so
that whatever is read of others' channels stays the same; and they see of others' rows nothing but
which channel names are taken.
-/

namespace OnAir.Store

-- -----------------------------------------------------------------------------
-- Rows of others
-- -----------------------------------------------------------------------------

/-- The rows that are not this owner's are as they were, and so are all pictures. -/
structure Untouched (owner : RawText) (t t' : Tables) : Prop where
  channels : t'.channels.filter (fun row => RawText.text row.owner ≠ owner)
    = t.channels.filter (fun row => RawText.text row.owner ≠ owner)
  users : t'.users.filter (fun row => RawText.text row.owner ≠ owner)
    = t.users.filter (fun row => RawText.text row.owner ≠ owner)
  thumbs : t'.thumbs = t.thumbs

theorem filter_map_kept {ρ : Type} {p : ρ → Bool} {f : ρ → ρ} (hp : ∀ r, p (f r) = p r)
    (hf : ∀ r, p r = true → f r = r) (rows : List ρ) : (rows.map f).filter p = rows.filter p := by
  induction rows with
  | nil => rfl
  | cons r rest ih =>
    rw [List.map_cons, List.filter_cons, List.filter_cons, hp, ih]
    split
    next hr => rw [hf r hr]
    next => rfl

namespace Untouched

variable {owner : RawText} {t t' t'' : Tables} {who name secret : String} {announce : Bool}

theorem refl (owner : RawText) (t : Tables) : Untouched owner t t :=
  ⟨rfl, rfl, rfl⟩

theorem trans (h : Untouched owner t t') (h' : Untouched owner t' t'') : Untouched owner t t'' :=
  ⟨h'.channels.trans h.channels, h'.users.trans h.users, h'.thumbs.trans h.thumbs⟩

theorem addUser : Untouched (.text who) t (t.addUser who).1 := by
  unfold Tables.addUser
  split
  · exact refl _ t
  · exact ⟨rfl, by simp [List.filter_append], rfl⟩

theorem setUser : Untouched (.text who) t (t.setUser who announce) := by
  unfold Tables.setUser
  split
  · refine ⟨rfl, filter_map_kept (fun r => ?_) (fun r hr => ?_) _, rfl⟩
    · split <;> rfl
    · simp_all
  · exact ⟨rfl, by simp [List.filter_append], rfl⟩

theorem addChannel (h : t.addChannel? who name secret = some t') :
    Untouched (.text who) t t' := by
  unfold Tables.addChannel? at h
  split at h
  · cases h
  · cases h
    exact ⟨by simp [List.filter_append], rfl, rfl⟩

theorem setChannel : Untouched (.text who) t (t.setChannel who name announce).1 := by
  refine ⟨filter_map_kept (fun r => ?_) (fun r hr => ?_) _, rfl, rfl⟩
  · split <;> rfl
  · simp_all

theorem deleteChannel : Untouched (.text who) t (t.deleteChannel who name).1 := by
  refine ⟨?_, rfl, rfl⟩
  simp only [Tables.deleteChannel, List.filter_filter]
  refine List.filter_congr fun r _ => ?_
  by_cases hr : r.owner = who <;> simp [hr]

-- -----------------------------------------------------------------------------
-- Reading rows of others
-- -----------------------------------------------------------------------------

variable {row : ChannelRow} {other : String}

theorem mem_channels (h : Untouched owner t t') (hrow : .text row.owner ≠ owner) :
    row ∈ t'.channels ↔ row ∈ t.channels := by
  have hmem : row ∈ t'.channels.filter (fun row => RawText.text row.owner ≠ owner)
      ↔ row ∈ t.channels.filter (fun row => RawText.text row.owner ≠ owner) := by rw [h.channels]
  simpa [hrow] using hmem

theorem channelsOf (h : Untouched owner t t') (hother : .text other ≠ owner) :
    t'.channelsOf other = t.channelsOf other := by
  have hkept (rows : List ChannelRow) : rows.filter (·.owner = other)
      = (rows.filter fun row => RawText.text row.owner ≠ owner).filter (·.owner = other) := by
    rw [List.filter_filter]
    refine List.filter_congr fun r _ => ?_
    by_cases hr : r.owner = other <;> simp [hr, hother]
  rw [Tables.channelsOf, Tables.channelsOf, hkept, h.channels, ← hkept]

theorem announced (h : Untouched owner t t') (hrow : .text row.owner ≠ owner) :
    t'.announced row = t.announced row := by
  have hkept (rows : List UserRow) : rows.find? (·.owner = row.owner)
      = (rows.filter fun r => RawText.text r.owner ≠ owner).find? (·.owner = row.owner) := by
    rw [List.find?_filter]
    refine congrArg (rows.find? ·) (funext fun r => ?_)
    by_cases hr : r.owner = row.owner <;> simp [hr, hrow]
  rw [Tables.announced, Tables.announced, Tables.ownerAnnounce?, Tables.ownerAnnounce?,
    Tables.userNamed?, Tables.userNamed?, hkept, h.users, ← hkept]

theorem channelNamed? (h : Untouched owner t t') (ht : t.Unique) (ht' : t'.Unique)
    (hrow : .text row.owner ≠ owner) (hfound : t.channelNamed? name = some row) :
    t'.channelNamed? name = some row := by
  obtain ⟨hmem, hname⟩ := (find?_eq_some ht.names).mp hfound
  exact (find?_eq_some ht'.names).mpr ⟨(h.mem_channels hrow).mpr hmem, hname⟩

theorem channelWithFtlId? (h : Untouched owner t t') (ht : t.Unique) (ht' : t'.Unique)
    (hrow : .text row.owner ≠ owner) (hfound : t.channelWithFtlId? name = some row) :
    t'.channelWithFtlId? name = some row := by
  obtain ⟨hmem, hname⟩ := (Tables.channelWithFtlId?_eq_some ht.ftlIds).mp hfound
  exact (Tables.channelWithFtlId?_eq_some ht'.ftlIds).mpr ⟨(h.mem_channels hrow).mpr hmem, hname⟩

end Untouched

-- -----------------------------------------------------------------------------
-- What an owner can see
-- -----------------------------------------------------------------------------

/-- Tables with the same rows of this owner and the same names taken. -/
structure Agree (owner : RawText) (t u : Tables) : Prop where
  channels : ∀ row : ChannelRow, .text row.owner = owner → (row ∈ t.channels ↔ row ∈ u.channels)
  users : ∀ row : UserRow, .text row.owner = owner → (row ∈ t.users ↔ row ∈ u.users)
  names : ∀ name, name ∈ t.channels.map (·.name) ↔ name ∈ u.channels.map (·.name)

def Maps.owned (m : Maps) (owner name : String) : Option ChannelEntry :=
  (m.channels name).filter fun entry => entry.owner = owner

structure Maps.Agree (owner : String) (m m' : Maps) : Prop where
  owners : m.owners owner = m'.owners owner
  owned : ∀ name, m.owned owner name = m'.owned owner name
  taken : ∀ name, (m.channels name).isSome = (m'.channels name).isSome

theorem Maps.owns_eq (m : Maps) (owner name : String) :
    m.owns owner name = (m.owned owner name).isSome := by
  rw [owns, owned]
  cases m.channels name with
  | none => rfl
  | some entry => by_cases howner : entry.owner = owner <;> simp [howner, Option.filter]

theorem Maps.channels_of_owns {m : Maps} {owner name : String} (h : m.owns owner name = true) :
    m.channels name = m.owned owner name := by
  rw [owns, Option.any_eq_true] at h
  obtain ⟨entry, hentry, howner⟩ := h
  rw [owned, hentry, Option.filter_some, if_pos howner]

namespace Maps.Agree

variable {m m' : Maps} {owner : String}

theorem owns (h : Maps.Agree owner m m') (name : String) :
    m.owns owner name = m'.owns owner name := by
  rw [Maps.owns_eq, Maps.owns_eq, h.owned]

theorem setOwner (h : Maps.Agree owner m m') (announce : Bool) :
    Maps.Agree owner (m.setOwner owner announce) (m'.setOwner owner announce) where
  owners := by simp [Maps.setOwner]
  owned := h.owned
  taken := h.taken

theorem setChannel (h : Maps.Agree owner m m') (name : String) (entry : Option ChannelEntry) :
    Maps.Agree owner (m.setChannel name entry) (m'.setChannel name entry) where
  owners := h.owners
  owned k := by
    simp only [Maps.owned, Maps.setChannel, Function.update_apply]
    split
    · rfl
    · exact h.owned k
  taken k := by
    simp only [Maps.setChannel, Function.update_apply]
    split
    · rfl
    · exact h.taken k

end Maps.Agree

namespace Tables

variable {t u : Tables} {who : String}

theorem mem_users (h : t.Unique) {row : UserRow} :
    row ∈ t.users ↔ t.maps.owners row.owner = some row.announce := by
  simp only [maps, ownerAnnounce?, userNamed?, Option.map_eq_some_iff, find?_eq_some h.owners]
  refine ⟨fun hmem => ⟨row, ⟨hmem, rfl⟩, rfl⟩, ?_⟩
  rintro ⟨row', ⟨hmem, howner⟩, hannounce⟩
  have hrow : row' = row := by
    cases row
    cases row'
    simp_all
  exact hrow ▸ hmem

theorem mem_names {name : String} :
    name ∈ t.channels.map (·.name) ↔ (t.maps.channels name).isSome = true := by
  simp [maps, channelNamed?]

theorem owned_eq_some (h : t.Unique) {name : String} {entry : ChannelEntry} :
    t.maps.owned who name = some entry
      ↔ entry.owner = who ∧ (⟨entry.owner, name, entry.secret, entry.ftlId, entry.announce⟩ :
        ChannelRow) ∈ t.channels := by
  rw [mem_channels h, Maps.owned, Option.filter_eq_some_iff, decide_eq_true_iff, and_comm]
  rfl

theorem agree_iff (ht : t.Unique) (hu : u.Unique) :
    Agree (.text who) t u ↔ Maps.Agree who t.maps u.maps := by
  constructor
  · intro h
    refine ⟨Option.ext fun announce => ?_, fun name => Option.ext fun entry => ?_, fun name => ?_⟩
    · have hrow := h.users ⟨who, announce⟩ rfl
      rwa [mem_users ht, mem_users hu] at hrow
    · rw [owned_eq_some ht, owned_eq_some hu]
      exact and_congr_right fun howner => h.channels _ (congrArg RawText.text howner)
    · rw [Bool.eq_iff_iff, ← mem_names, ← mem_names]
      exact h.names name
  · intro h
    refine ⟨fun row hrow => ?_, fun row hrow => ?_, fun name => ?_⟩
    · obtain rfl := RawText.text.inj hrow
      have howned := congrArg (· = some row.entry) (h.owned row.name)
      rw [owned_eq_some ht, owned_eq_some hu] at howned
      simpa [ChannelRow.entry] using howned
    · rw [mem_users ht, mem_users hu, RawText.text.inj hrow, h.owners]
    · rw [mem_names, mem_names, h.taken]

theorem channelsOf_eq (ht : t.Unique) (hu : u.Unique) (h : Agree (.text who) t u) :
    t.channelsOf who = u.channelsOf who := by
  have hnodup {t : Tables} (ht : t.Unique) : (t.channelsOf who).Nodup :=
    (channelsOf_strict ht who).imp fun {a b} hlt (heq : a = b) =>
      String.lt_irrefl b.name (heq ▸ hlt)
  have hperm : (t.channelsOf who).Perm (u.channelsOf who) := by
    refine (List.perm_ext_iff_of_nodup (hnodup ht) (hnodup hu)).mpr fun row => ?_
    rw [mem_channelsOf ht, mem_channelsOf hu, ← mem_channels ht, ← mem_channels hu]
    exact and_congr_right fun howner => h.channels row (congrArg RawText.text howner)
  refine hperm.eq_of_pairwise (fun a b _ _ hab hba => ?_) (channelsOf_strict ht who)
    (channelsOf_strict hu who)
  exact absurd hba (String.lt_asymm hab)

theorem addUser_count : (t.addUser who).2 = if (t.maps.owners who).isSome then 0 else 1 := by
  have hany : (t.maps.owners who).isSome = t.users.any (·.owner = who) := by
    rw [Bool.eq_iff_iff]
    simp [maps, ownerAnnounce?, userNamed?]
  rw [hany, addUser]
  split <;> rfl

end Tables

-- -----------------------------------------------------------------------------
-- Statements of an owner
-- -----------------------------------------------------------------------------

structure Twins (owner : RawText) (t u : Tables) : Prop where
  left : t.Unique
  right : u.Unique
  agree : Agree owner t u

namespace Twins

variable {who : String} {t u t' u' : Tables}

theorem of_maps (ht : t.Unique) (hu : u.Unique) (h : Maps.Agree who t.maps u.maps) :
    Twins (.text who) t u :=
  ⟨ht, hu, (Tables.agree_iff ht hu).mpr h⟩

theorem maps (h : Twins (.text who) t u) : Maps.Agree who t.maps u.maps :=
  (Tables.agree_iff h.left h.right).mp h.agree

/-- An owner's statements do not tell tables apart that agree about the owner, and they agree ever
after. -/
theorem blind (who : String) : Blind (Twins (.text who)) who where
  channelsOf _ _ h := Tables.channelsOf_eq h.left h.right h.agree
  addUser := .always fun t u _ h => by
    refine ⟨of_maps (h.left.addUser who) (h.right.addUser who) ?_, ?_⟩
    · rw [Tables.maps_addUser, Tables.maps_addUser, h.maps.owners]
      exact h.maps.setOwner _
    · rw [Tables.addUser_count, Tables.addUser_count, h.maps.owners]
  addChannel name secret t u _ h := by
    have hnone : t.addChannel? who name secret = none ↔ u.addChannel? who name secret = none := by
      rw [Tables.addChannel?_eq_none, Tables.addChannel?_eq_none, h.maps.taken]
    cases ht : t.addChannel? who name secret with
    | none =>
      simp only [ht, hnone.mp ht]
      exact .none
    | some t' =>
      cases hu : u.addChannel? who name secret with
      | none => cases (hnone.mpr hu).symm.trans ht
      | some u' =>
        simp only [ht, hu]
        refine .some ⟨of_maps (h.left.addChannel ht) (h.right.addChannel hu) ?_, rfl⟩
        rw [Tables.maps_addChannel ht, Tables.maps_addChannel hu]
        exact h.maps.setChannel _ _
  setChannel name announce := .always fun t u _ h => by
    have howns := h.maps.owns name
    refine ⟨of_maps (h.left.setChannel who name announce) (h.right.setChannel who name announce) ?_,
      ?_⟩
    · rw [Tables.maps_setChannel, Tables.maps_setChannel, howns]
      split
      next hu =>
        rw [Maps.channels_of_owns hu, Maps.channels_of_owns (howns.trans hu), h.maps.owned]
        exact h.maps.setChannel _ _
      next => exact h.maps
    · rw [Tables.setChannel, Tables.setChannel, Tables.countP_channel h.left,
        Tables.countP_channel h.right, howns]
  setUser announce := .always fun t u _ h => by
    refine ⟨of_maps (h.left.setUser who announce) (h.right.setUser who announce) ?_, rfl⟩
    rw [Tables.maps_setUser, Tables.maps_setUser]
    exact h.maps.setOwner announce
  deleteChannel name := .always fun t u _ h => by
    have howns := h.maps.owns name
    refine ⟨of_maps (h.left.deleteChannel who name) (h.right.deleteChannel who name) ?_, ?_⟩
    · rw [Tables.maps_deleteChannel h.left, Tables.maps_deleteChannel h.right, howns]
      split
      · exact h.maps.setChannel name none
      · exact h.maps
    · rw [Tables.deleteChannel, Tables.deleteChannel, Tables.countP_channel h.left,
        Tables.countP_channel h.right, howns]

end Twins
end OnAir.Store
