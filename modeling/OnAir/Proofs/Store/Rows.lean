import OnAir.Proofs.Store.Maps

/-!
# Rows after a change

Of the row of a channel nothing ever changes but its switch, and only a creation adds one. Owners are
added and stay.
-/

namespace OnAir.Store

structure ChannelRow.Succeeds (row old : ChannelRow) : Prop where
  owner : row.owner = old.owner
  name : row.name = old.name
  secret : row.secret = old.secret
  ftlId : row.ftlId = old.ftlId

namespace Tables

variable {t t' : Tables} {who name secret : String} {announce : Bool} {row : ChannelRow}

def owners (t : Tables) : List String :=
  t.users.map (·.owner)

-- -----------------------------------------------------------------------------
-- Channels
-- -----------------------------------------------------------------------------

@[simp] theorem channels_addUser : (t.addUser who).1.channels = t.channels := by
  unfold addUser
  split <;> rfl

@[simp] theorem channels_setUser : (t.setUser who announce).channels = t.channels := by
  unfold setUser
  split <;> rfl

@[simp] theorem channels_setThumb {picture : Bytes} {now : Instant} :
    (t.setThumb name picture now).channels = t.channels := by
  unfold setThumb
  split <;> rfl

theorem channels_addChannel (h : t.addChannel? who name secret = some t') :
    t'.channels = t.channels ++ [⟨who, name, secret, none, true⟩] ∧ t'.users = t.users := by
  unfold addChannel? at h
  split at h
  · cases h
  · cases h
    exact ⟨rfl, rfl⟩

theorem exists_of_mem_setChannel (h : row ∈ (t.setChannel who name announce).1.channels) :
    ∃ old ∈ t.channels, row.Succeeds old := by
  obtain ⟨old, hold, rfl⟩ := List.mem_map.mp h
  refine ⟨old, hold, ?_⟩
  split <;> exact ⟨rfl, rfl, rfl, rfl⟩

theorem mem_of_mem_deleteChannel (h : row ∈ (t.deleteChannel who name).1.channels) :
    row ∈ t.channels :=
  List.mem_of_mem_filter h

-- -----------------------------------------------------------------------------
-- Owners
-- -----------------------------------------------------------------------------

@[simp] theorem owners_setThumb {picture : Bytes} {now : Instant} :
    (t.setThumb name picture now).owners = t.owners := by
  unfold setThumb
  split <;> rfl

@[simp] theorem owners_setChannel : (t.setChannel who name announce).1.owners = t.owners :=
  rfl

@[simp] theorem owners_deleteChannel : (t.deleteChannel who name).1.owners = t.owners :=
  rfl

theorem mem_owners_addUser {a : String} :
    a ∈ (t.addUser who).1.owners ↔ a = who ∨ a ∈ t.owners := by
  unfold addUser
  split
  next h =>
    refine (or_iff_right_of_imp ?_).symm
    rintro rfl
    obtain ⟨row, hrow, rfl⟩ := exists_row h
    exact List.mem_map_of_mem (List.mem_of_find?_eq_some hrow)
  next h => simp [owners, or_comm]

theorem mem_owners_setUser {a : String} :
    a ∈ (t.setUser who announce).owners ↔ a = who ∨ a ∈ t.owners := by
  unfold setUser
  split
  next h =>
    have howners : (t.users.map fun row =>
        if row.owner = who then { row with announce } else row).map (·.owner) = t.owners :=
      map_key_map (by intro r; split <;> rfl)
    rw [owners, howners]
    refine (or_iff_right_of_imp ?_).symm
    rintro rfl
    obtain ⟨row, hrow, rfl⟩ := exists_row h
    exact List.mem_map_of_mem (List.mem_of_find?_eq_some hrow)
  next h => simp [owners, or_comm]

theorem countP_owner (h : t.Unique) (hwho : who ∈ t.owners) :
    (t.users.countP fun user => user.owner = who) = 1 := by
  obtain ⟨user, huser, rfl⟩ := List.mem_map.mp hwho
  have hfound := (find?_eq_some (k := user.owner) h.owners).mpr ⟨huser, rfl⟩
  have hcount := countP_row (fun _ => true) user.owner h.owners
  simpa [hfound] using hcount

end Tables
end OnAir.Store
