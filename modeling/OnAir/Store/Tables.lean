import OnAir.Bytes.Basic
import OnAir.Text.Order
import OnAir.Time.Clock

/-!
# Tables

The store holds owners, channels and thumbnails. Statements are functions from tables to tables;
what they select, and the number of rows they touch, is read off the rows alone. Channel names,
FTL numbers, owners and thumbnail names are unique.
-/

namespace OnAir.Store

structure UserRow where
  owner : String
  announce : Bool
  deriving DecidableEq, Repr

structure ChannelRow where
  owner : String
  name : String
  secret : String
  ftlId : Option String
  announce : Bool
  deriving DecidableEq, Repr

structure ThumbRow where
  name : String
  picture : Bytes
  updated : Instant
  deriving DecidableEq, Repr

/-- The contents of the store. -/
structure Tables where
  users : List UserRow
  channels : List ChannelRow
  thumbs : List ThumbRow
  deriving DecidableEq, Repr

namespace Tables

def empty : Tables := ⟨[], [], []⟩

-- -----------------------------------------------------------------------------
-- Selecting
-- -----------------------------------------------------------------------------

/-- Whether both hold, as far as known: what is missing decides nothing unless the other is false. -/
def and? : Option Bool → Option Bool → Option Bool
  | some false, _ | _, some false => some false
  | some true, some true => some true
  | _, _ => none

def userNamed? (t : Tables) (owner : String) : Option UserRow :=
  t.users.find? (·.owner = owner)

def channelsOf (t : Tables) (owner : String) : List ChannelRow :=
  Text.sortBy (·.name) (t.channels.filter (·.owner = owner))

def channelNamed? (t : Tables) (name : String) : Option ChannelRow :=
  t.channels.find? (·.name = name)

def channelWithFtlId? (t : Tables) (ftlId : String) : Option ChannelRow :=
  t.channels.find? (·.ftlId = some ftlId)

def thumbNamed? (t : Tables) (name : String) : Option ThumbRow :=
  t.thumbs.find? (·.name = name)

/-- The thumbnails of channels, each beside its channel, and beside the row of its owner if there is
one. -/
def channelThumbs (t : Tables) : List (ThumbRow × ChannelRow × Option UserRow) :=
  t.thumbs.flatMap fun thumb =>
    (t.channelNamed? thumb.name).toList.map fun channel =>
      (thumb, channel, t.userNamed? channel.owner)

/-- The thumbnails that count, by name: neither switch is off, and that of the owner is not
missing. -/
def announcedThumbs (t : Tables) : List ThumbRow :=
  let counted := t.channelThumbs.filter fun (_, channel, owner) =>
    (and? (some channel.announce) (owner.map (·.announce))).getD false
  Text.sortBy (·.name) (counted.map (·.1))

-- -----------------------------------------------------------------------------
-- Changing
-- -----------------------------------------------------------------------------

/-- Adds an owner whose channels are announced, unless there is a row for them. -/
def addUser (t : Tables) (owner : String) : Tables × Nat :=
  if t.users.any (·.owner = owner) then (t, 0)
  else ({ t with users := t.users ++ [⟨owner, true⟩] }, 1)

def setUser (t : Tables) (owner : String) (announce : Bool) : Tables :=
  if t.users.any (·.owner = owner) then
    { t with users := t.users.map fun row =>
        if row.owner = owner then { row with announce } else row }
  else { t with users := t.users ++ [⟨owner, announce⟩] }

def addChannel? (t : Tables) (owner name secret : String) : Option Tables :=
  if t.channels.any (·.name = name) then none
  else some { t with channels := t.channels ++ [⟨owner, name, secret, none, true⟩] }

/-- Sets the switch of an owner's channel; the number tells whether there is one. -/
def setChannel (t : Tables) (owner name : String) (announce : Bool) : Tables × Nat :=
  ({ t with channels := t.channels.map fun row =>
      if row.owner = owner ∧ row.name = name then { row with announce } else row },
    t.channels.countP fun row => row.owner = owner ∧ row.name = name)

def deleteChannel (t : Tables) (owner name : String) : Tables × Nat :=
  ({ t with channels := t.channels.filter fun row => ¬(row.owner = owner ∧ row.name = name) },
    t.channels.countP fun row => row.owner = owner ∧ row.name = name)

def setThumb (t : Tables) (name : String) (picture : Bytes) (now : Instant) : Tables :=
  if t.thumbs.any (·.name = name) then
    { t with thumbs := t.thumbs.map fun row =>
        if row.name = name then ⟨name, picture, now⟩ else row }
  else { t with thumbs := t.thumbs ++ [⟨name, picture, now⟩] }

-- -----------------------------------------------------------------------------
-- Whole rows
-- -----------------------------------------------------------------------------

def putUser (t : Tables) (row : UserRow) : Tables :=
  { t with users := t.users.filter (·.owner ≠ row.owner) ++ [row] }

def putChannel (t : Tables) (row : ChannelRow) : Tables :=
  { t with channels := t.channels.filter (fun other =>
      other.name ≠ row.name ∧ (row.ftlId = none ∨ other.ftlId ≠ row.ftlId)) ++ [row] }

def putThumb (t : Tables) (row : ThumbRow) : Tables :=
  { t with thumbs := t.thumbs.filter (·.name ≠ row.name) ++ [row] }

def removeUser (t : Tables) (owner : String) : Tables :=
  { t with users := t.users.filter (·.owner ≠ owner) }

def removeChannel (t : Tables) (name : String) : Tables :=
  { t with channels := t.channels.filter (·.name ≠ name) }

def removeThumb (t : Tables) (name : String) : Tables :=
  { t with thumbs := t.thumbs.filter (·.name ≠ name) }

end Tables
end OnAir.Store
