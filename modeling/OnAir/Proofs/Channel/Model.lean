import OnAir.Proofs.Channel.Operations

/-!
# The registry as three maps

What the calls of the registry answer, and how they change its contents, said about three maps:
which owner has which switch, which channel has which name, and which picture has which name. Of the
statements of a call only their arguments matter, and nothing here knows of rows or connections.
-/

namespace OnAir.Channel

open Store (ChannelEntry Maps Query Refusal)

-- -----------------------------------------------------------------------------
-- Calls
-- -----------------------------------------------------------------------------

inductive Call
  | channelsOf (owner : RawText)
  | create (owner name : RawText)
  | setAnnounce (owner name : RawText) (announce : Bool)
  | setOwnerAnnounce (owner : RawText) (announce : Bool)
  | delete (owner name : RawText)
  | find (column : Column) (value : RawText)
  | thumbnail (name : RawText)
  | putThumbnail (name : RawText) (picture : Bytes)
  | liveness

inductive Answer
  | done
  | identity (identity : Identity)
  | identities (identities : List Identity)
  | authorization (authorization : Authorization) (secret : String)
  | picture (bytes : Bytes)
  | liveness (rows : List (String × Instant)) (now : Option Instant)
  deriving DecidableEq, Repr

abbrev Reply := Except RegistryError Answer

namespace Call

def operation : Call → String
  | channelsOf _ => "get_channels_by_owner"
  | create _ _ => "create_channel"
  | setAnnounce _ _ _ => "set_announce"
  | setOwnerAnnounce _ _ => "set_owner_announce"
  | delete _ _ => "delete_channel"
  | find _ _ => "find_channel"
  | thumbnail _ => "get_thumbnail"
  | putThumbnail _ _ => "put_thumbnail"
  | liveness => "list_liveness"

/-- The statements of a call, which must all have arguments that can be stored. -/
def queries (secret : String) : Call → List Query
  | channelsOf owner => [Registry.channelsQuery owner]
  | create owner name =>
    [Registry.addUserQuery owner, Registry.addChannelQuery owner name secret]
  | setAnnounce owner name announce => [Registry.setAnnounceQuery owner name announce]
  | setOwnerAnnounce owner announce => [Registry.setOwnerAnnounceQuery owner announce]
  | delete owner name => [Registry.deleteQuery owner name]
  | find column value => [Registry.findQuery column value]
  | thumbnail name => [Registry.thumbnailQuery name]
  | putThumbnail name picture => [Registry.putThumbnailQuery name picture]
  | liveness => [Registry.livenessQuery]

def draws : Call → Nat
  | create _ _ => 24
  | _ => 0

end Call

-- -----------------------------------------------------------------------------
-- Listings
-- -----------------------------------------------------------------------------

/-- Rows that list a map: all its entries, in strictly rising order of their names. -/
structure Lists {α : Type} (f : String → Option α) (rows : List (String × α)) : Prop where
  rising : rows.Pairwise fun a b => a.1 < b.1
  mem_iff : ∀ name a, (name, a) ∈ rows ↔ f name = some a

theorem Lists.unique {α : Type} {f : String → Option α} {rows rows' : List (String × α)}
    (h : Lists f rows) (h' : Lists f rows') : rows = rows' := by
  have hnodup {rows : List (String × α)} (h : Lists f rows) : rows.Nodup :=
    h.rising.imp fun {a b} hlt (heq : a = b) => String.lt_irrefl b.1 (heq ▸ hlt)
  have hperm : rows.Perm rows' := by
    refine (List.perm_ext_iff_of_nodup (hnodup h) (hnodup h')).mpr fun ⟨name, a⟩ => ?_
    rw [h.mem_iff, h'.mem_iff]
  refine hperm.eq_of_pairwise (fun a b _ _ hab hba => ?_) h.rising h'.rising
  exact absurd hba (String.lt_asymm hab)

-- -----------------------------------------------------------------------------
-- The model
-- -----------------------------------------------------------------------------

/-- The contents of the registry, its clock, the random bytes to come, and how a broken text is
refused. -/
structure Model where
  maps : Maps
  clock : Instant
  random : RandomSource
  refusal : Refusal

def identityAt (name : String) (entry : ChannelEntry) : Identity :=
  ⟨entry.owner, name, entry.secret, entry.ftlId, entry.announce⟩

def Has (m : Maps) (column : Column) (value name : String) (entry : ChannelEntry) : Prop :=
  m.channels name = some entry ∧ match column with
    | .name => name = value
    | .ftlId => entry.ftlId = some value

def channelsOf (m : Maps) (owner name : String) : Option ChannelEntry :=
  (m.channels name).filter fun entry => entry.owner = owner

def announcedThumbs (m : Maps) (name : String) : Option (Bytes × Instant) :=
  if (m.channels name).any m.announces then m.thumbs name else none

namespace Model

def admits (s : Model) (call : Call) : Except RegistryError Unit :=
  ((call.queries (secretAt s.random)).forM (·.check s.refusal)).mapError (meaning call.operation)

/-- The reply to a call that was admitted, and the maps after it. -/
def Allows (s : Model) : Call → Reply → Maps → Prop
  | .channelsOf owner, reply, m => m = s.maps ∧
      ∃ rows, Lists (channelsOf s.maps owner.filled) rows
        ∧ reply = .ok (.identities (rows.map fun row => identityAt row.1 row.2))
  | .create owner name, reply, m =>
      if (s.maps.channels name.filled).isSome then
        reply = .error (.conflict "create_channel") ∧ m = s.maps
      else
        reply = .ok (.identity ⟨owner.filled, name.filled, secretAt s.random, none, true⟩) ∧
        m = (s.maps.setOwner owner.filled ((s.maps.owners owner.filled).getD true)).setChannel
          name.filled (some ⟨owner.filled, secretAt s.random, none, true⟩)
  | .setAnnounce owner name announce, reply, m =>
      if s.maps.owns owner.filled name.filled then
        reply = .ok .done ∧
        m = s.maps.setChannel name.filled
          ((s.maps.channels name.filled).map fun entry => { entry with announce })
      else reply = .error (.notFound name.filled) ∧ m = s.maps
  | .setOwnerAnnounce owner announce, reply, m => reply = .ok .done ∧
      m = s.maps.setOwner owner.filled announce
  | .delete owner name, reply, m => reply = .ok .done ∧
      m = if s.maps.owns owner.filled name.filled then s.maps.setChannel name.filled none
        else s.maps
  | .find column value, reply, m => m = s.maps ∧
      ((∃ name entry, Has s.maps column value.filled name entry ∧ reply = .ok
          (.authorization ⟨entry.owner, name, s.maps.announces entry⟩ entry.secret))
        ∨ ((∀ name entry, ¬Has s.maps column value.filled name entry)
          ∧ reply = .error (.notFound value.filled)))
  | .thumbnail name, reply, m => m = s.maps ∧ reply = match s.maps.thumbs name.filled with
      | some (picture, _) => .ok (.picture picture)
      | none => .error (.notFound name.filled)
  | .putThumbnail name picture, reply, m => reply = .ok .done ∧
      m = s.maps.setThumb name.filled picture s.clock
  | .liveness, reply, m => m = s.maps ∧
      ∃ rows, Lists (announcedThumbs s.maps) rows
        ∧ reply = (Registry.listing (rows.map fun row => (row.1, row.2.2)) s.clock).map
          fun (rows, now) => .liveness rows now

def after (s : Model) (call : Call) (m : Maps) : Model :=
  { s with maps := m, random := skip s.random call.draws }

/-- The reply to a call and the state after it. A call that is refused changes nothing, but draws
its bytes. -/
def Serves (s : Model) (call : Call) (reply : Reply) (s' : Model) : Prop :=
  match s.admits call with
  | .error e => reply = .error e ∧ s' = s.after call s.maps
  | .ok () => ∃ m, s.Allows call reply m ∧ s' = s.after call m

end Model

/-- What happens to the registry: it is called, or time goes on or back. -/
inductive Move
  | call (call : Call)
  | clock (time : Instant)

/-- The replies to the calls among some moves, and the state after all of them. -/
inductive Model.Run : Model → List Move → List Reply → Model → Prop
  | nil {s : Model} : Run s [] [] s
  | call {s s' s'' : Model} {call : Call} {reply : Reply} {moves : List Move}
      {replies : List Reply} (hserves : s.Serves call reply s') (hrun : Run s' moves replies s'') :
      Run s (.call call :: moves) (reply :: replies) s''
  | clock {s s' : Model} {time : Instant} {moves : List Move} {replies : List Reply}
      (hrun : Run { s with clock := time } moves replies s') :
      Run s (.clock time :: moves) replies s'

-- -----------------------------------------------------------------------------
-- One reply
-- -----------------------------------------------------------------------------

def Distinct (m : Maps) : Prop :=
  ∀ ⦃name name' entry entry' ftlId⦄, m.channels name = some entry →
    m.channels name' = some entry' → entry.ftlId = some ftlId → entry'.ftlId = some ftlId →
    name = name'

theorem Has.unique {m : Maps} (hm : Distinct m) {column : Column} {value name name' : String}
    {entry entry' : ChannelEntry} (h : Has m column value name entry)
    (h' : Has m column value name' entry') : name = name' ∧ entry = entry' := by
  have hname : name = name' := by
    cases column with
    | name => exact h.2.trans h'.2.symm
    | ftlId => exact hm h.1 h'.1 h.2 h'.2
  subst hname
  exact ⟨rfl, Option.some.inj (h.1.symm.trans h'.1)⟩

theorem Model.Allows.unique {s : Model} (hs : Distinct s.maps) {call : Call} {reply reply' : Reply}
    {m m' : Maps} (h : s.Allows call reply m) (h' : s.Allows call reply' m') :
    reply = reply' ∧ m = m' := by
  cases call with
  | channelsOf owner =>
    obtain ⟨rfl, rows, hrows, rfl⟩ := h
    obtain ⟨rfl, rows', hrows', rfl⟩ := h'
    rw [hrows.unique hrows']
    exact ⟨rfl, rfl⟩
  | liveness =>
    obtain ⟨rfl, rows, hrows, rfl⟩ := h
    obtain ⟨rfl, rows', hrows', rfl⟩ := h'
    rw [hrows.unique hrows']
    exact ⟨rfl, rfl⟩
  | create owner name | setAnnounce owner name announce =>
    simp only [Model.Allows] at h h'
    split at h
    all_goals
      obtain ⟨rfl, rfl⟩ := h
      simp_all
  | setOwnerAnnounce owner announce | delete owner name | putThumbnail name picture =>
    obtain ⟨rfl, rfl⟩ := h
    obtain ⟨rfl, rfl⟩ := h'
    exact ⟨rfl, rfl⟩
  | thumbnail name =>
    obtain ⟨rfl, rfl⟩ := h
    obtain ⟨rfl, rfl⟩ := h'
    exact ⟨rfl, rfl⟩
  | find column value =>
    obtain ⟨rfl, h⟩ := h
    obtain ⟨rfl, h'⟩ := h'
    rcases h with ⟨name, entry, hhas, rfl⟩ | ⟨hnone, rfl⟩
    · rcases h' with ⟨name', entry', hhas', rfl⟩ | ⟨hnone, rfl⟩
      · obtain ⟨rfl, rfl⟩ := hhas.unique hs hhas'
        exact ⟨rfl, rfl⟩
      · exact absurd hhas (hnone name entry)
    · rcases h' with ⟨name', entry', hhas', rfl⟩ | ⟨-, rfl⟩
      · exact absurd hhas' (hnone name' entry')
      · exact ⟨rfl, rfl⟩

theorem Model.Serves.unique {s s' s'' : Model} (hs : Distinct s.maps) {call : Call}
    {reply reply' : Reply} (h : s.Serves call reply s') (h' : s.Serves call reply' s'') :
    reply = reply' ∧ s' = s'' := by
  simp only [Model.Serves] at h h'
  cases hadmitted : s.admits call with
  | error e =>
    rw [hadmitted] at h h'
    exact ⟨h.1.trans h'.1.symm, h.2.trans h'.2.symm⟩
  | ok u =>
    rw [hadmitted] at h h'
    obtain ⟨m, hm, rfl⟩ := h
    obtain ⟨m', hm', rfl⟩ := h'
    obtain ⟨rfl, rfl⟩ := hm.unique hs hm'
    exact ⟨rfl, rfl⟩

theorem Model.Serves.secret {s s' : Model} {call : Call} {identity : Identity}
    (h : s.Serves call (.ok (.identity identity)) s') : identity.secret = secretAt s.random := by
  simp only [Model.Serves] at h
  cases hadmitted : s.admits call with
  | error e =>
    rw [hadmitted] at h
    cases h.1
  | ok u =>
    rw [hadmitted] at h
    obtain ⟨m, hm, -⟩ := h
    cases call with
    | create owner name =>
      simp only [Model.Allows] at hm
      split at hm
      · cases hm.1
      · cases hm.1
        rfl
    | setAnnounce owner name announce =>
      simp only [Model.Allows] at hm
      split at hm <;> cases hm.1
    | setOwnerAnnounce owner announce | delete owner name | putThumbnail name picture => cases hm.1
    | channelsOf owner =>
      obtain ⟨-, rows, -, hreply⟩ := hm
      cases hreply
    | liveness =>
      obtain ⟨-, rows, -, hreply⟩ := hm
      generalize Registry.listing _ _ = result at hreply
      cases result <;> cases hreply
    | thumbnail name =>
      obtain ⟨-, hreply⟩ := hm
      split at hreply <;> cases hreply
    | find column value =>
      obtain ⟨-, ⟨name, entry, -, hreply⟩ | ⟨-, hreply⟩⟩ := hm <;> cases hreply

theorem Model.Run.secret {s s' : Model} {moves : List Move} {replies : List Reply}
    (h : s.Run moves replies s') {identity : Identity} (hmem : .ok (.identity identity) ∈ replies) :
    identity.secret.length = 48 ∧ ∀ c ∈ identity.secret.toList, Hex.isLower c = true := by
  induction h with
  | nil => cases hmem
  | clock hrun ih => exact ih hmem
  | @call s _ _ _ reply _ _ hserves hrun ih =>
    rcases List.mem_cons.mp hmem with rfl | hmem
    · rw [hserves.secret]
      exact ⟨length_secretAt s.random, fun _ => isLower_of_mem_secretAt⟩
    · exact ih hmem

end OnAir.Channel
