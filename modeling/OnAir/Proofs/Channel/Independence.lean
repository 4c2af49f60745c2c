import OnAir.Proofs.Channel.Outcome
import OnAir.Proofs.Channel.Refinement
import OnAir.Proofs.Store.Abreast
import OnAir.Proofs.Store.Owners

/-!
# Independent calls

Two calls that change the tables are independent if they are not about one channel name and do not
both set the switch of one owner. What a call ends with depends on no more of the tables than whether
its own name is taken and by whom, and what it does to the maps behind the tables it does key by key.
So calls that are independent may be made in any order.
-/

namespace OnAir.Channel

open Act (Alike Paired Triple)
open Store (Abreast ChannelEntry Leaves Maps StoreError Tables checkStorable)

-- -----------------------------------------------------------------------------
-- Calls that change the tables
-- -----------------------------------------------------------------------------

namespace Call

def changes : Call → Bool
  | create _ _ | setAnnounce _ _ _ | setOwnerAnnounce _ _ | delete _ _ | putThumbnail _ _ => true
  | channelsOf _ | find _ _ | thumbnail _ | liveness => false

def named? : Call → Option RawText
  | create _ name | setAnnounce _ name _ | delete _ name | putThumbnail name _ => some name
  | setOwnerAnnounce _ _ | channelsOf _ | find _ _ | thumbnail _ | liveness => none

def switched? : Call → Option RawText
  | setOwnerAnnounce owner _ => some owner
  | _ => none

/-- The calls are not about one channel, and do not set one switch of an owner. -/
def Independent (a b : Call) : Prop :=
  (∀ name, a.named? = some name → b.named? ≠ some name)
    ∧ ∀ owner, a.switched? = some owner → b.switched? ≠ some owner

theorem Independent.symm {a b : Call} (h : Independent a b) : Independent b a :=
  ⟨fun name hb ha => h.1 name ha hb, fun owner hb ha => h.2 owner ha hb⟩

-- -----------------------------------------------------------------------------
-- Changes key by key
-- -----------------------------------------------------------------------------

def onOwner : Call → String → Option Bool → Option Bool
  | create owner _, key, x => if owner = .text key then some (x.getD true) else x
  | setOwnerAnnounce owner announce, key, x => if owner = .text key then some announce else x
  | _, _, x => x

def onChannel (source : RandomSource) : Call → String → Option ChannelEntry → Option ChannelEntry
  | create owner name, key, x =>
    if name = .text key then some ⟨owner.filled, secretAt source, none, true⟩ else x
  | setAnnounce _ name announce, key, x =>
    if name = .text key then x.map fun entry => { entry with announce } else x
  | delete owner name, key, x =>
    if name = .text key then x.filter fun entry => entry.owner ≠ owner.filled else x
  | _, _, x => x

def onThumb (now : Instant) : Call → String → Option (Bytes × ℤ) → Option (Bytes × ℤ)
  | putThumbnail name picture, key, x => if name = .text key then some (picture, now) else x
  | _, _, x => x

def change (source : RandomSource) (now : Instant) (call : Call) (m : Maps) : Maps where
  owners key := call.onOwner key (m.owners key)
  channels key := call.onChannel source key (m.channels key)
  thumbs key := call.onThumb now key (m.thumbs key)

variable {a b call : Call} {source source' : RandomSource} {now : Instant} {key : String}

theorem onChannel_other (h : call.named? ≠ some (.text key)) (x : Option ChannelEntry) :
    call.onChannel source key x = x := by
  cases call with
  | create owner name | setAnnounce owner name announce | delete owner name =>
    exact if_neg fun heq => h (congrArg some heq)
  | _ => rfl

theorem onThumb_other (h : call.named? ≠ some (.text key)) (x : Option (Bytes × ℤ)) :
    call.onThumb now key x = x := by
  cases call with
  | putThumbnail name picture => exact if_neg fun heq => h (congrArg some heq)
  | _ => rfl

/-- An owner who is created and one whose switch is set may be the same: whichever comes first, the
switch is the one that was set. -/
theorem onOwner_comm (h : Independent a b) (key : String) (x : Option Bool) :
    a.onOwner key (b.onOwner key x) = b.onOwner key (a.onOwner key x) := by
  cases a with
  | create owner name =>
    cases b with
    | create other name' =>
      by_cases hown : owner = .text key <;> by_cases hother : other = .text key <;>
        simp [onOwner, hown, hother]
    | setOwnerAnnounce other announce =>
      by_cases hown : owner = .text key <;> by_cases hother : other = .text key <;>
        simp [onOwner, hown, hother]
    | _ => rfl
  | setOwnerAnnounce owner announce =>
    cases b with
    | create other name =>
      by_cases hown : owner = .text key <;> by_cases hother : other = .text key <;>
        simp [onOwner, hown, hother]
    | setOwnerAnnounce other announce' =>
      have hne : owner ≠ other := by
        rintro rfl
        exact h.2 owner rfl rfl
      by_cases hown : owner = .text key
      · have hother : other ≠ .text key := fun heq => hne (hown.trans heq.symm)
        simp [onOwner, hown, hother]
      · simp [onOwner, hown]
    | _ => rfl
  | _ => rfl

theorem change_comm (h : Independent a b) (m : Maps) :
    a.change source now (b.change source' now m)
      = b.change source' now (a.change source now m) := by
  -- under every key one of the two calls leaves channels and pictures as they are
  have hname (key : String) : a.named? ≠ some (.text key) ∨ b.named? ≠ some (.text key) :=
    Classical.or_iff_not_imp_left.mpr fun ha => h.1 _ (Classical.not_not.mp ha)
  have hchannels (key : String) (x : Option ChannelEntry) :
      a.onChannel source key (b.onChannel source' key x)
        = b.onChannel source' key (a.onChannel source key x) := by
    rcases hname key with hkey | hkey
    · rw [onChannel_other hkey, onChannel_other hkey]
    · rw [onChannel_other hkey, onChannel_other hkey]
  have hthumbs (key : String) (x : Option (Bytes × ℤ)) :
      a.onThumb now key (b.onThumb now key x) = b.onThumb now key (a.onThumb now key x) := by
    rcases hname key with hkey | hkey
    · rw [onThumb_other hkey, onThumb_other hkey]
    · rw [onThumb_other hkey, onThumb_other hkey]
  simp only [change, onOwner_comm h, hchannels, hthumbs]

-- -----------------------------------------------------------------------------
-- What a call does
-- -----------------------------------------------------------------------------

/-- What a call depends on beside the tables, the random bytes and the faults is the same. -/
structure SameSetting (w v : World) : Prop where
  storeClock : w.storeClock = v.storeClock
  current : w.current = v.current
  runtime : w.runtime = v.runtime

namespace SameSetting

variable {w v u : World}

theorem refl (w : World) : SameSetting w w :=
  ⟨rfl, rfl, rfl⟩

theorem symm (h : SameSetting w v) : SameSetting v w :=
  ⟨h.storeClock.symm, h.current.symm, h.runtime.symm⟩

theorem trans (h : SameSetting w v) (h' : SameSetting v u) : SameSetting w u :=
  ⟨h.storeClock.trans h'.storeClock, h.current.trans h'.current, h.runtime.trans h'.runtime⟩

end SameSetting

/-- Between the two worlds the tables have become these; what else a later call depends on is the
same. -/
structure Reaches (w : World) (t : Tables) (w' : World) : Prop where
  tables : w'.tables = t
  setting : SameSetting w' w
  nextTag : w'.nextTag = none

theorem Reaches.of_leaves {w w' : World} {t : Tables} {random : RandomSource}
    (htag : w.nextTag = none) (h : Leaves { w with random } t w') : Reaches w t w' where
  tables := h.tables_eq
  setting := ⟨h.storeClock_eq, h.current_eq, h.runtime_eq⟩
  nextTag := h.tag.elim (fun heq => heq.trans htag) id

/-- A call changes the maps behind the tables as it should, or it fails and changes nothing. -/
def Takes (call : Call) (w : World) : Prop :=
  Triple call.act w
    (fun _ w' => ∃ t, t.Unique ∧ t.maps = call.change w.random w.storeClock w.tables.maps
      ∧ Reaches w t w')
    (fun _ w' => Reaches w w.tables w')

theorem takes_of_commits {α : Type} {act : Act RegistryError α} {answer : α → Answer} {w : World}
    (hact : call.act = answer <$> act) (htag : w.nextTag = none)
    (h : Store.Commits act w fun _ t =>
      t.Unique ∧ t.maps = call.change w.random w.storeClock w.tables.maps) : call.Takes w := by
  rw [Takes, hact, map_eq_pure_bind]
  refine Triple.bind (Triple.mono_error h fun _ _ hleaves => .of_leaves htag hleaves) ?_
  rintro a w' ⟨t, ⟨hunique, hmaps⟩, hleaves⟩
  exact .pure ⟨t, hunique, hmaps, .of_leaves htag hleaves⟩

variable {w : World}

theorem update_at {β : Type} (f : String → β) (k : String) (g : β → β) :
    Function.update f k (g (f k)) = fun key => if (.text k : RawText) = .text key then g (f key)
      else f key := by
  funext key
  rw [Function.update_apply]
  by_cases hkey : key = k
  · rw [if_pos hkey, if_pos (congrArg RawText.text hkey.symm), hkey]
  · rw [if_neg hkey, if_neg fun heq => hkey (RawText.text.inj heq).symm]

theorem create_takes (owner name : RawText) (hkeys : w.tables.Unique) (htag : w.nextTag = none) :
    (create owner name).Takes w := by
  rw [Takes, act, map_eq_pure_bind]
  refine Triple.bind (Triple.mono_error Registry.create_triple fun _ _ h => .of_leaves htag h) ?_
  rintro _ w' ⟨who, n, t, rfl, rfl, -, ht, h⟩
  refine .pure ⟨t, (hkeys.addUser who).addChannel ht, ?_, .of_leaves htag h⟩
  have howners := update_at w.tables.maps.owners who fun x => some (x.getD true)
  have hchannels := update_at w.tables.maps.channels n fun _ =>
    some ⟨who, secretAt w.random, none, true⟩
  rw [Tables.maps_addChannel ht, Tables.maps_addUser, Maps.setOwner, Maps.setChannel, howners,
    hchannels]
  rfl

theorem setAnnounce_takes (owner name : RawText) (announce : Bool) (hkeys : w.tables.Unique)
    (htag : w.nextTag = none) : (setAnnounce owner name announce).Takes w := by
  have htells : TellsRows w := fun tag hset => nomatch htag.symm.trans hset
  refine takes_of_commits rfl htag ((Registry.setAnnounce_commits hkeys htells).mono ?_)
  rintro _ _ ⟨who, n, rfl, rfl, htold, rfl⟩
  refine ⟨hkeys.setChannel who n announce, ?_⟩
  have howns : w.tables.maps.owns who n = true := by
    rw [Registry.toldRows_own hkeys htag] at htold
    by_contra hnone
    exact htold (if_neg hnone)
  rw [Tables.maps_setChannel, if_pos howns, Maps.setChannel,
    update_at w.tables.maps.channels n fun x => x.map fun entry => { entry with announce }]
  rfl

theorem delete_takes (owner name : RawText) (hkeys : w.tables.Unique) (htag : w.nextTag = none) :
    (delete owner name).Takes w := by
  refine takes_of_commits rfl htag (Registry.delete_commits.mono ?_)
  rintro _ _ ⟨who, n, rfl, rfl, rfl⟩
  refine ⟨hkeys.deleteChannel who n, ?_⟩
  rw [Tables.maps_filterChannel hkeys, Maps.setChannel,
    update_at w.tables.maps.channels n fun x => x.filter fun entry => entry.owner ≠ who]
  rfl

theorem setOwnerAnnounce_takes (owner : RawText) (announce : Bool) (hkeys : w.tables.Unique)
    (htag : w.nextTag = none) : (setOwnerAnnounce owner announce).Takes w := by
  refine takes_of_commits rfl htag (Registry.setOwnerAnnounce_commits.mono ?_)
  rintro _ _ ⟨who, rfl, rfl⟩
  refine ⟨hkeys.setUser who announce, ?_⟩
  rw [Tables.maps_setUser, Maps.setOwner,
    update_at w.tables.maps.owners who fun _ => some announce]
  rfl

theorem putThumbnail_takes (name : RawText) (picture : Bytes) (hkeys : w.tables.Unique)
    (htag : w.nextTag = none) : (putThumbnail name picture).Takes w := by
  refine takes_of_commits rfl htag (Registry.putThumbnail_commits.mono ?_)
  rintro _ _ ⟨n, rfl, rfl⟩
  refine ⟨hkeys.setThumb n picture w.storeClock, ?_⟩
  rw [Tables.maps_setThumb, Maps.setThumb,
    update_at w.tables.maps.thumbs n fun _ => some (picture, w.storeClock)]
  rfl

theorem takes (hchanges : call.changes = true) (hkeys : w.tables.Unique)
    (htag : w.nextTag = none) : call.Takes w := by
  cases call with
  | create owner name => exact create_takes owner name hkeys htag
  | setAnnounce owner name announce => exact setAnnounce_takes owner name announce hkeys htag
  | setOwnerAnnounce owner announce => exact setOwnerAnnounce_takes owner announce hkeys htag
  | delete owner name => exact delete_takes owner name hkeys htag
  | putThumbnail name picture => exact putThumbnail_takes name picture hkeys htag
  | _ => cases hchanges

-- -----------------------------------------------------------------------------
-- What a call ends with
-- -----------------------------------------------------------------------------

/-- The tables are the same in what the end of a call depends on: whether the name of a new channel
is taken, and whether there is a channel to set the switch of. -/
def Sees : Call → Tables → Tables → Prop
  | create _ name, t, u => ∀ n, name = .text n →
    (t.maps.channels n).isSome = (u.maps.channels n).isSome
  | setAnnounce owner name announce, t, u => ∀ who n, owner = .text who → name = .text n →
    (t.setChannel who n announce).2 = (u.setChannel who n announce).2
  | _, _, _ => True

theorem session_abreast {α β : Type} {T : Tables → Tables → Prop} {operation : String}
    {Q : α → β → Prop} {body : Act StoreError α} {other : Act StoreError β}
    (h : Paired (Abreast T) Q body other) :
    Paired (Abreast T) Q (session operation body) (session operation other) := by
  refine (Abreast.withConnection h).handle fun e => ?_
  rw [interpret, interpret]
  cases e.family with
  | uniqueViolation | other => exact .fail _
  | outage => exact (Paired.of_alike (Abreast.note _ _)).bind fun _ _ _ => .fail _

/-- A session whose one statement is a change that any tables allow, and whose tag nobody reads. -/
theorem execute_abreast {operation verb : String} {query : Store.Query}
    {update : Tables → Instant → Tables × Nat} :
    Paired (Abreast fun _ _ => True) Eq
      (do
        let _ ← session operation (Store.execute query verb fun t now => some (update t now)))
      (do
        let _ ← session operation (Store.execute query verb fun t now => some (update t now))) := by
  refine (session_abreast (Abreast.execute_unread fun _ _ _ _ _ => ?_)).bind fun _ _ _ => .pure rfl
  exact .some ⟨trivial, trivial⟩

/-- Whether a channel can be added is decided by its name; once it is, the name is taken. -/
theorem addChannel_rel {t u : Tables} (owner name secret : String)
    (h : (t.maps.channels name).isSome = (u.maps.channels name).isSome) :
    Option.Rel (fun a b => Sees (create (.text owner) (.text name)) a.1 b.1 ∧ True)
      ((t.addChannel? owner name secret).map (·, 1))
      ((u.addChannel? owner name secret).map (·, 1)) := by
  have hnone : t.addChannel? owner name secret = none ↔ u.addChannel? owner name secret = none := by
    rw [Tables.addChannel?_eq_none, Tables.addChannel?_eq_none, h]
  have hadded {t t' : Tables} (ht : t.addChannel? owner name secret = some t') :
      (t'.maps.channels name).isSome = true := by
    simp [Tables.maps_addChannel ht, Maps.setChannel]
  rcases ht : t.addChannel? owner name secret with _ | t' <;>
    rcases hu : u.addChannel? owner name secret with _ | u'
  · exact .none
  · rw [hnone.mp ht] at hu
    cases hu
  · rw [hnone.mpr hu] at ht
    cases ht
  · refine .some ⟨?_, trivial⟩
    rintro _ ⟨⟩
    rw [hadded ht, hadded hu]

theorem setChannel_twice (t : Tables) (owner name : String) (announce : Bool) :
    ((t.setChannel owner name announce).1.setChannel owner name announce).2
      = (t.setChannel owner name announce).2 := by
  simp only [Tables.setChannel, List.countP_map]
  refine List.countP_congr fun row _ => ?_
  simp only [Function.comp_apply]
  split <;> rfl

theorem create_abreast {owner name : RawText} :
    Paired (Abreast (Sees (create owner name))) Eq (Registry.create owner name)
      (Registry.create owner name) := by
  refine (Paired.of_alike ((Abreast.bytes 24).map _)).bind ?_
  rintro secret _ rfl
  have hinsert : Paired (Abreast (Sees (create owner name))) (fun _ _ => True)
      (Registry.insert owner name secret) (Registry.insert owner name secret) := by
    refine (Abreast.execute_unread fun _ t u _ h => ?_).bind fun _ _ _ =>
      (Abreast.execute_unread fun htexts t u _ h => ?_).bind fun _ _ _ => .pure trivial
    -- the owner may be new in one world only, but nobody reads how many rows that has added
    · refine .some ⟨fun n hn => ?_, trivial⟩
      rw [Tables.maps_addUser, Tables.maps_addUser]
      exact h n hn
    · rw [Registry.addChannelQuery_texts] at htexts
      obtain ⟨n, rfl⟩ := Store.exists_text htexts (.tail _ (.head _))
      exact addChannel_rel owner.filled n secret (h n rfl)
  refine (session_abreast (Abreast.transaction hinsert)).bind fun _ _ _ => ?_
  exact (Paired.of_alike (Abreast.note _ _)).bind fun _ _ _ => .pure rfl

theorem setAnnounce_abreast {owner name : RawText} {announce : Bool} :
    Paired (Abreast (Sees (setAnnounce owner name announce))) Eq
      (Registry.setAnnounce owner name announce) (Registry.setAnnounce owner name announce) := by
  have hchanges
      (htexts : (Registry.setAnnounceQuery owner name announce).texts.forM checkStorable = .ok ()) :
      Abreast.Changes (Sees (setAnnounce owner name announce)) Eq fun t _ =>
        some (t.setChannel owner.filled name.filled announce) := by
    intro t u _ h
    rw [Registry.setAnnounceQuery_texts] at htexts
    obtain ⟨who, rfl⟩ := Store.exists_text htexts (.head _)
    obtain ⟨n, rfl⟩ := Store.exists_text htexts (.tail _ (.head _))
    refine .some ⟨?_, h who n rfl rfl⟩
    rintro _ _ ⟨⟩ ⟨⟩
    exact (setChannel_twice t who n announce).trans
      ((h who n rfl rfl).trans (setChannel_twice u who n announce).symm)
  refine (session_abreast (Abreast.execute_read hchanges)).bind ?_
  rintro tag _ rfl
  split
  · exact .fail _
  · exact .pure rfl

theorem act_abreast (hchanges : call.changes = true) : Alike (Abreast call.Sees) call.act := by
  cases call with
  | create owner name => exact create_abreast.alike.map _
  | setAnnounce owner name announce => exact setAnnounce_abreast.alike.map _
  | setOwnerAnnounce owner announce => exact execute_abreast.alike.map _
  | delete owner name => exact execute_abreast.alike.map _
  | putThumbnail name picture => exact execute_abreast.alike.map _
  | _ => cases hchanges

theorem sees_of_channels {t u : Tables} (ht : t.Unique) (hu : u.Unique)
    (hchannels : ∀ n, call.named? = some (.text n) → t.maps.channels n = u.maps.channels n) :
    call.Sees t u := by
  cases call with
  | create owner name =>
    rintro n rfl
    rw [hchannels n rfl]
  | setAnnounce owner name announce =>
    rintro who n rfl rfl
    have hcount {t : Tables} (ht : t.Unique) : (t.setChannel who n announce).2
        = if (t.maps.channels n).any (·.owner = who) then 1 else 0 :=
      Tables.countP_channel ht who n
    rw [hcount ht, hcount hu, hchannels n rfl]
  | _ => trivial

end Call
end OnAir.Channel
