import OnAir.Proofs.Store.Beside

/-!
# Keys out of sight

Tables that are the same but for the keys of one owner's channels. A statement that returns no keys
of this owner answers such tables alike, and every change keeps them the same but for the keys. The
line of a statement in the log tells neither what it returned nor what its arguments were.
-/

namespace OnAir.Store


def ChannelRow.withoutKey (owner : String) (row : ChannelRow) : ChannelRow :=
  if row.owner = owner then { row with secret := "" } else row

def Tables.withoutKeys (owner : String) (t : Tables) : Tables :=
  { t with channels := t.channels.map (·.withoutKey owner) }

/-- Tables that are the same but for the keys of this owner's channels. -/
def SameButKeys (owner : String) (t u : Tables) : Prop :=
  t.withoutKeys owner = u.withoutKeys owner

instance (owner : String) (t u : Tables) : Decidable (SameButKeys owner t u) :=
  inferInstanceAs (Decidable (t.withoutKeys owner = u.withoutKeys owner))

-- -----------------------------------------------------------------------------
-- Rows
-- -----------------------------------------------------------------------------

namespace ChannelRow

variable (owner : String) (row : ChannelRow)

@[simp] theorem withoutKey_owner : (row.withoutKey owner).owner = row.owner := by
  rw [withoutKey]
  split <;> rfl

@[simp] theorem withoutKey_name : (row.withoutKey owner).name = row.name := by
  rw [withoutKey]
  split <;> rfl

@[simp] theorem withoutKey_ftlId : (row.withoutKey owner).ftlId = row.ftlId := by
  rw [withoutKey]
  split <;> rfl

@[simp] theorem withoutKey_announce : (row.withoutKey owner).announce = row.announce := by
  rw [withoutKey]
  split <;> rfl

theorem withoutKey_setAnnounce (announce : Bool) :
    withoutKey owner { row with announce } = { row.withoutKey owner with announce } := by
  by_cases h : row.owner = owner <;> simp only [withoutKey, h] <;> rfl

variable {owner row}

theorem withoutKey_of_ne (h : row.owner ≠ owner) : row.withoutKey owner = row :=
  if_neg h

end ChannelRow

-- -----------------------------------------------------------------------------
-- Queries
-- -----------------------------------------------------------------------------

namespace Tables

variable (owner : String) (t : Tables)

@[simp] theorem withoutKeys_users : (t.withoutKeys owner).users = t.users :=
  rfl

@[simp] theorem withoutKeys_thumbs : (t.withoutKeys owner).thumbs = t.thumbs :=
  rfl

@[simp] theorem withoutKeys_channels :
    (t.withoutKeys owner).channels = t.channels.map (·.withoutKey owner) :=
  rfl

@[simp] theorem announced_withoutKeys (row : ChannelRow) :
    (t.withoutKeys owner).announced (row.withoutKey owner) = t.announced row := by
  simp [announced, ownerAnnounce?, userNamed?]

@[simp] theorem channelNamed?_withoutKeys (name : String) :
    (t.withoutKeys owner).channelNamed? name
      = (t.channelNamed? name).map (·.withoutKey owner) := by
  simp only [channelNamed?, withoutKeys_channels, List.find?_map, Function.comp_def,
    ChannelRow.withoutKey_name]

@[simp] theorem channelWithFtlId?_withoutKeys (ftlId : String) :
    (t.withoutKeys owner).channelWithFtlId? ftlId
      = (t.channelWithFtlId? ftlId).map (·.withoutKey owner) := by
  simp only [channelWithFtlId?, withoutKeys_channels, List.find?_map, Function.comp_def,
    ChannelRow.withoutKey_ftlId]

theorem announcedThumbs_withoutKeys :
    (t.withoutKeys owner).announcedThumbs = t.announcedThumbs := by
  simp [announcedThumbs_eq, Option.any_map]

theorem channelsOf_map_withoutKey (other : String) :
    (t.withoutKeys owner).channelsOf other = (t.channelsOf other).map (·.withoutKey owner) := by
  simp only [channelsOf, Text.sortBy, withoutKeys_channels, List.filter_map, Function.comp_def,
    ChannelRow.withoutKey_owner]
  refine (List.map_mergeSort fun a _ b _ => ?_).symm
  rw [ChannelRow.withoutKey_name, ChannelRow.withoutKey_name]

theorem channelsOf_withoutKeys {owner other : String} (h : other ≠ owner) :
    (t.withoutKeys owner).channelsOf other = t.channelsOf other := by
  rw [channelsOf_map_withoutKey]
  refine List.map_congr_left (fun row hrow => ?_) |>.trans (List.map_id _)
  rw [channelsOf, Text.sortBy, List.mem_mergeSort, List.mem_filter, decide_eq_true_iff] at hrow
  exact ChannelRow.withoutKey_of_ne (hrow.2 ▸ h)

-- -----------------------------------------------------------------------------
-- Changes
-- -----------------------------------------------------------------------------

variable (who name : String) (announce : Bool)

theorem addUser_withoutKeys : (t.withoutKeys owner).addUser who
    = ((t.addUser who).1.withoutKeys owner, (t.addUser who).2) := by
  by_cases h : t.users.any (·.owner = who) = true <;>
    simp only [addUser, withoutKeys_users, h] <;> rfl

theorem setUser_withoutKeys : (t.withoutKeys owner).setUser who announce
    = (t.setUser who announce).withoutKeys owner := by
  by_cases h : t.users.any (·.owner = who) = true <;>
    simp only [setUser, withoutKeys_users, h] <;> rfl

theorem setThumb_withoutKeys (picture : Bytes) (now : Instant) :
    (t.withoutKeys owner).setThumb name picture now
      = (t.setThumb name picture now).withoutKeys owner := by
  by_cases h : t.thumbs.any (·.name = name) = true <;>
    simp only [setThumb, withoutKeys_thumbs, h] <;> rfl

theorem setChannel_withoutKeys : (t.withoutKeys owner).setChannel who name announce
    = ((t.setChannel who name announce).1.withoutKeys owner,
      (t.setChannel who name announce).2) := by
  have hset (row : ChannelRow) : ChannelRow.withoutKey owner
      (if row.owner = who ∧ row.name = name then { row with announce } else row)
        = if row.owner = who ∧ row.name = name then { row.withoutKey owner with announce }
          else row.withoutKey owner := by
    rw [apply_ite (ChannelRow.withoutKey owner), ChannelRow.withoutKey_setAnnounce]
  simp [setChannel, withoutKeys, List.countP_map, Function.comp_def, hset]

theorem deleteChannel_withoutKeys : (t.withoutKeys owner).deleteChannel who name
    = ((t.deleteChannel who name).1.withoutKeys owner, (t.deleteChannel who name).2) := by
  simp [deleteChannel, withoutKeys, List.filter_map, List.countP_map, Function.comp_def]

theorem addChannel?_withoutKeys (secret : String) :
    (t.addChannel? who name secret).map (·.withoutKeys owner)
      = if (t.withoutKeys owner).channels.any (·.name = name) then none
        else some { t.withoutKeys owner with
          channels := (t.withoutKeys owner).channels
            ++ [(ChannelRow.mk who name secret none true).withoutKey owner] } := by
  simp only [addChannel?, withoutKeys_channels, List.any_map, Function.comp_def,
    ChannelRow.withoutKey_name]
  split
  · rfl
  · simp [withoutKeys]

end Tables

-- -----------------------------------------------------------------------------
-- Statements
-- -----------------------------------------------------------------------------

section
variable {owner : String}

theorem reads_of_withoutKeys {α : Type} {query : Tables → α}
    (h : ∀ t : Tables, query (t.withoutKeys owner) = query t) : Reads (SameButKeys owner) query :=
  fun t u htu => (h t).symm.trans ((congrArg query htu).trans (h u))

theorem writes_of_withoutKeys {update : Tables → Instant → Option (Tables × Nat)}
    (outcome : Tables → Instant → Option (Tables × Nat))
    (h : ∀ t now, (update t now).map (Prod.map (·.withoutKeys owner) id)
      = outcome (t.withoutKeys owner) now) : Writes (SameButKeys owner) update := by
  intro t u now htu
  have hsame := (h t now).trans ((congrArg (outcome · now) htu).trans (h u now).symm)
  cases ht : update t now with
  | none =>
    rw [ht] at hsame
    rw [Option.map_eq_none_iff.mp hsame.symm]
    exact .none
  | some change =>
    rw [ht, Option.map_some] at hsame
    obtain ⟨change', hu, heq⟩ := Option.map_eq_some_iff.mp hsame.symm
    obtain ⟨htables, hcount⟩ := Prod.mk.inj heq
    rw [hu]
    exact .some ⟨htables.symm, hcount.symm⟩

theorem steady_sameButKeys (owner who : String) : Steady (SameButKeys owner) who where
  addUser := writes_of_withoutKeys (fun t _ => some (t.addUser who)) fun t _ =>
    congrArg some (t.addUser_withoutKeys owner who).symm
  addChannel name secret := by
    refine writes_of_withoutKeys (fun t _ => (if t.channels.any (·.name = name) then none
      else some { t with channels := t.channels
        ++ [(ChannelRow.mk who name secret none true).withoutKey owner] }).map (·, 1)) fun t _ => ?_
    rw [← Tables.addChannel?_withoutKeys, Option.map_map, Option.map_map]
    rfl
  setChannel name announce :=
    writes_of_withoutKeys (fun t _ => some (t.setChannel who name announce)) fun t _ =>
      congrArg some (t.setChannel_withoutKeys owner who name announce).symm
  setUser announce :=
    writes_of_withoutKeys (fun t _ => some (t.setUser who announce, 1)) fun t _ =>
      congrArg (fun t => some (t, 1)) (t.setUser_withoutKeys owner who announce).symm
  deleteChannel name :=
    writes_of_withoutKeys (fun t _ => some (t.deleteChannel who name)) fun t _ =>
      congrArg some (t.deleteChannel_withoutKeys owner who name).symm

theorem public_sameButKeys (owner : String) : Public (SameButKeys owner) where
  announcedThumbs := reads_of_withoutKeys (·.announcedThumbs_withoutKeys owner)
  thumbNamed _ := reads_of_withoutKeys fun _ => rfl
  setThumb name picture :=
    writes_of_withoutKeys (fun t now => some (t.setThumb name picture now, 1)) fun t now =>
      congrArg (fun t => some (t, 1)) (t.setThumb_withoutKeys owner name picture now).symm

theorem reads_channelsOf {other : String} (h : other ≠ owner) :
    Reads (SameButKeys owner) (·.channelsOf other) :=
  reads_of_withoutKeys (·.channelsOf_withoutKeys h)

-- -----------------------------------------------------------------------------
-- The log of statements
-- -----------------------------------------------------------------------------

theorem logged_arguments {α : Type} {query other : Query} (htext : query.text = other.text)
    (hcaller : query.caller = other.caller) (body : Act StoreError α) :
    logged query body = logged other body := by
  obtain ⟨text, arguments, caller⟩ := query
  obtain ⟨text', arguments', caller'⟩ := other
  cases htext
  cases hcaller
  rfl

end
end OnAir.Store
