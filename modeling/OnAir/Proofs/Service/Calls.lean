import OnAir.Directory
import OnAir.Ingest
import OnAir.Proofs.Channel.Outcome

/-!
# Calls of the services

What an owner does with their channels, how a publisher is let in, and what viewers are shown, as one
type of calls. Over a store that may fail anywhere each call ends with an error and has not happened,
or it ends with an answer and the tables are those that it is meant to leave.
-/

namespace OnAir

open Act (Triple)
open Channel (Authorization Definition ServiceError TellsRows drawn secretAt)
open Directory (LiveChannel LivenessRow)
open Store (Commits Idle Leaves Tables)

namespace Service

inductive OwnerCall
  | list
  | create (name : RawText)
  | setAnnounce (name : RawText) (announce : Bool)
  | delete (name : RawText)
  | setOwnerAnnounce (announce : Bool)
  deriving DecidableEq, Repr

inductive Call
  | owner (who : RawText) (call : OwnerCall)
  | byKey (name key : RawText)
  | byUrl (url : RawText)
  | byChallenge (ftlId : RawText) (nonce digest : Bytes)
  | listLive
  | list (thumbBase liveBase : String)
  | thumbnail (name : RawText)
  | putThumbnail (name : RawText) (picture : Bytes)
  deriving DecidableEq, Repr

inductive Answer
  | done
  | definition (definition : Definition)
  | definitions (definitions : List Definition)
  | authorization (authorization : Authorization)
  | live (channels : List LiveChannel)
  | entries (entries : List Directory.Entry)
  | picture (bytes : Bytes)
  deriving DecidableEq, Repr

def OwnerCall.act (publishDir : String) (who : RawText) : OwnerCall → Act ServiceError Answer
  | list => .definitions <$> Channel.Service.list publishDir who
  | create name => .definition <$> Channel.Service.create publishDir who name
  | setAnnounce name announce =>
    (fun _ => .done) <$> Channel.Service.setAnnounce who name announce
  | delete name => (fun _ => .done) <$> Channel.Service.delete who name
  | setOwnerAnnounce announce =>
    (fun _ => .done) <$> Channel.Service.setOwnerAnnounce who announce

def Call.act (publishDir : String) : Call → Act Ingest.Error Answer
  | owner who call => (call.act publishDir who).mapError .service
  | byKey name key => .authorization <$> Ingest.byKey name key
  | byUrl url => .authorization <$> Ingest.byUrl url
  | byChallenge ftlId nonce digest => .authorization <$> Ingest.byChallenge ftlId nonce digest
  | listLive => .live <$> Directory.listLive.mapError .service
  | list thumbBase liveBase =>
    .entries <$> (Directory.list thumbBase liveBase).mapError .service
  | thumbnail name => .picture <$> (Directory.thumbnail name).mapError .service
  | putThumbnail name picture =>
    (fun _ => .done) <$> (Directory.putThumbnail name picture).mapError .service

def Call.reads : Call → Bool
  | owner _ .list | byKey .. | byUrl _ | byChallenge .. | listLive | list .. | thumbnail _ => true
  | owner _ _ | putThumbnail .. => false

/-- The tables that a call leaves when it succeeds. What is stored is text; and where the store
answers with its own tag, a switch is only set for a channel of the owner. -/
inductive Call.Effect (w : World) : Call → Tables → Prop
  | read {call : Call} (h : call.reads = true) : Effect w call w.tables
  | create {who name : String} {t : Tables} (h : (w.tables.addUser who).1.addChannel? who name
      (secretAt w.random) = some t) : Effect w (.owner (.text who) (.create (.text name))) t
  | setAnnounce {who name : String} {announce : Bool}
      (h : w.nextTag = none → w.tables.maps.owns who name = true) :
      Effect w (.owner (.text who) (.setAnnounce (.text name) announce))
        (w.tables.setChannel who name announce).1
  | delete (who name : String) :
      Effect w (.owner (.text who) (.delete (.text name))) (w.tables.deleteChannel who name).1
  | setOwnerAnnounce (who : String) (announce : Bool) :
      Effect w (.owner (.text who) (.setOwnerAnnounce announce)) (w.tables.setUser who announce)
  | putThumbnail (name : String) (picture : Bytes) :
      Effect w (.putThumbnail (.text name) picture) (w.tables.setThumb name picture w.storeClock)

def Call.start : Call → World → World
  | owner _ (.create _), w => drawn w
  | _, w => w

end Service

section
variable {w : World}

-- -----------------------------------------------------------------------------
-- Owners
-- -----------------------------------------------------------------------------

namespace Channel.Service

variable {publishDir : String} {owner name : RawText}

theorem list_commits :
    Commits (list publishDir owner) w (fun channels t => ∃ who, owner = .text who
      ∧ channels = (w.tables.channelsOf who).map (fun row =>
        Definition.ofIdentity (Registry.identityOf row) publishDir) ∧ t = w.tables) := by
  refine (Registry.channelsOf_commits.mapError _).bind ?_
  rintro _ _ ⟨who, rfl, rfl, ht⟩ v -
  exact ⟨_, v, rfl, ⟨who, rfl, List.map_map, ht⟩, .refl v⟩

theorem create_triple :
    Triple (create publishDir owner name) w
      (fun channel w' => ∃ who n t, owner = .text who ∧ name = .text n
        ∧ channel = .ofIdentity ⟨who, n, secretAt w.random, none, true⟩ publishDir
        ∧ (w.tables.addUser who).1.addChannel? who n (secretAt w.random) = some t
        ∧ Leaves (drawn w) t w')
      (fun _ w' => Leaves (drawn w) w.tables w') := by
  refine Triple.bind (Triple.handle Registry.create_triple fun e v hv => ?_) ?_
  · split
    · exact Triple.of_run_error rfl (hv.setLog _)
    · exact .fail hv
  · rintro _ v ⟨who, n, t, howner, hname, rfl, ht, hv⟩
    exact .pure ⟨who, n, t, howner, hname, rfl, ht, hv⟩

theorem setAnnounce_commits {announce : Bool} (hkeys : w.tables.Unique) (htag : TellsRows w) :
    Commits (setAnnounce owner name announce) w
      (fun _ t => ∃ who n, owner = .text who ∧ name = .text n
        ∧ Registry.toldRows w who n announce ≠ 0
        ∧ t = (w.tables.setChannel who n announce).1) :=
  (Registry.setAnnounce_commits hkeys htag).mapError _

theorem delete_commits :
    Commits (delete owner name) w
      (fun _ t => ∃ who n, owner = .text who ∧ name = .text n
        ∧ t = (w.tables.deleteChannel who n).1) :=
  (Registry.delete_commits.mapError _).bind fun _ _ ht _ _ =>
    ⟨(), _, rfl, ht, (Idle.refl _).setLog _⟩

theorem setOwnerAnnounce_commits {announce : Bool} :
    Commits (setOwnerAnnounce owner announce) w
      (fun _ t => ∃ who, owner = .text who ∧ t = w.tables.setUser who announce) :=
  Registry.setOwnerAnnounce_commits.mapError _

end Channel.Service

-- -----------------------------------------------------------------------------
-- Publishers
-- -----------------------------------------------------------------------------

namespace Ingest

variable {column : Channel.Column} {name key value url ftlId : RawText} {nonce digest : Bytes}

theorem lookUp_commits : Commits (lookUp column value) w (fun _ t => t = w.tables) := by
  refine Commits.handle (Channel.Registry.find_commits.map _ fun _ _ h => h.2) fun e v hv => ?_
  cases e with
  | notFound => exact .pure ⟨v.tables, hv.tables_eq, (Idle.refl v).toLeaves⟩
  | conflict | unavailable | unknownColumn | raised => exact .fail _

theorem byKey_commits : Commits (byKey name key) w (fun _ t => t = w.tables) := by
  refine Commits.read_bind (P := fun _ => True) (lookUp_commits.mono fun _ _ h => ⟨trivial, h⟩)
    fun (auth, secret) v _ hv => ?_
  have hsame : Leaves v v.tables v := (Idle.refl v).toLeaves
  refine Triple.bind (Q := fun _ v' => v = v') (.ofExcept (fun _ _ => rfl) fun _ _ => hsame) ?_
  rintro key _ rfl
  cases auth with
  | none => exact Triple.fail hsame
  | some auth =>
    simp only
    split
    · exact .pure ⟨v.tables, hv.tables_eq, hsame⟩
    · exact Triple.fail hsame

theorem byUrl_commits : Commits (byUrl url) w (fun _ t => t = w.tables) := by
  refine Triple.bind (Q := fun _ w' => w = w')
    (.ofExcept (fun _ _ => rfl) fun _ _ => (Idle.refl w).toLeaves) ?_
  rintro ⟨name, key⟩ _ rfl
  exact byKey_commits

theorem byChallenge_commits :
    Commits (byChallenge ftlId nonce digest) w (fun _ t => t = w.tables) := by
  refine Commits.read_bind (P := fun _ => True) (lookUp_commits.mono fun _ _ h => ⟨trivial, h⟩)
    fun (auth, secret) v _ hv => ?_
  have hsame : Leaves v v.tables v := (Idle.refl v).toLeaves
  cases auth with
  | none => exact .fail _
  | some auth =>
    simp only
    split
    · exact .pure ⟨v.tables, hv.tables_eq, hsame⟩
    · exact Triple.of_run_error rfl (hsame.setLog _)

end Ingest

-- -----------------------------------------------------------------------------
-- Viewers
-- -----------------------------------------------------------------------------

namespace Directory

variable {name : RawText}

def announcedRows (t : Tables) : List LivenessRow :=
  t.announcedThumbs.map fun row => ⟨row.name, row.updated⟩

theorem orderedRows_commits :
    Commits orderedRows w (fun rows t =>
      rows = ordered (announcedRows w.tables) w.storeClock ∧ t = w.tables) := by
  refine (Channel.Registry.liveness_commits.mapError _).bind ?_
  rintro _ _ ⟨rfl, ht⟩ v hv
  refine ⟨_, v, rfl, ⟨?_, ht⟩, .refl v⟩
  simp only [List.map_map]
  cases hrows : w.tables.announcedThumbs with
  | nil => simp [announcedRows, hrows, ordered]
  | cons row rest => simp [announcedRows, hrows, Function.comp_def]

def shown (w : World) : List LiveChannel :=
  (ordered (announcedRows w.tables) w.storeClock).map fun row => ⟨row.name, row.updated.millis⟩

theorem listLive_commits :
    Commits listLive w (fun channels t => channels = shown w ∧ t = w.tables) := by
  refine orderedRows_commits.bind ?_
  rintro _ _ ⟨rfl, ht⟩ v -
  exact ⟨_, v, rfl, ⟨rfl, ht⟩, .refl v⟩

theorem list_commits {thumbBase liveBase : String} :
    Commits (list thumbBase liveBase) w (fun entries t =>
      entries.map (fun entry => (⟨entry.name, entry.last⟩ : LiveChannel)) = shown w
        ∧ t = w.tables) := by
  refine orderedRows_commits.bind ?_
  rintro _ _ ⟨rfl, ht⟩ v -
  exact ⟨_, v, rfl, ⟨by simp [shown], ht⟩, .refl v⟩

theorem thumbnail_commits :
    Commits (thumbnail name) w (fun _ t => t = w.tables) :=
  (Channel.Registry.thumbnail_commits.mapError _).mono fun _ _ h => h.2

theorem putThumbnail_commits {picture : Bytes} :
    Commits (putThumbnail name picture) w
      (fun _ t => ∃ n, name = .text n ∧ t = w.tables.setThumb n picture w.storeClock) :=
  (Channel.Registry.putThumbnail_commits.mapError _).bind fun _ _ ht _ _ =>
    ⟨(), _, rfl, ht, (Idle.refl _).setLog _⟩

end Directory

-- -----------------------------------------------------------------------------
-- Calls
-- -----------------------------------------------------------------------------

namespace Service

variable {who : RawText}

/-- What a call comes to: success and the tables it is meant to leave, or failure and the tables of
the start. -/
def Ends {ε α : Type} (act : Act ε α) (start : World) (effect : Tables → Prop) (w : World) : Prop :=
  Triple act w (fun _ w' => ∃ t, effect t ∧ Leaves start t w')
    (fun _ w' => Leaves start w.tables w')

theorem Ends.of_commits {ε α : Type} {act : Act ε α} {fits : α → Tables → Prop}
    {effect : Tables → Prop} (h : Commits act w fits) (hfits : ∀ a t, fits a t → effect t) :
    Ends act w effect w :=
  Triple.mono h (fun a _ ⟨t, hfit, ht⟩ => ⟨t, hfits a t hfit, ht⟩) fun _ _ h => h

theorem Ends.map {ε α β : Type} {act : Act ε α} {start : World} {effect : Tables → Prop}
    (f : α → β) (h : Ends act start effect w) : Ends (f <$> act) start effect w := by
  rw [map_eq_pure_bind]
  exact Triple.bind h fun _ _ ht => .pure ht

theorem Ends.mapError {ε ε' α : Type} {act : Act ε α} {start : World} {effect : Tables → Prop}
    (f : ε → ε') (h : Ends act start effect w) : Ends (act.mapError f) start effect w :=
  Triple.mapError h fun _ _ h => h

theorem Call.Effect.setAnnounce_told {who name : String} {announce : Bool}
    (hkeys : w.tables.Unique) (h : Channel.Registry.toldRows w who name announce ≠ 0) :
    (Call.owner (.text who) (.setAnnounce (.text name) announce)).Effect w
      (w.tables.setChannel who name announce).1 := by
  refine .setAnnounce fun htag => ?_
  rw [Channel.Registry.toldRows_own hkeys htag] at h
  simpa using h

/-- Whatever fails, an owner's call has its whole effect or none. For a switch to be set that takes
a store that does not deny it. -/
theorem OwnerCall.act_ends (publishDir : String) (call : OwnerCall)
    (hset : ∀ name announce, call = .setAnnounce name announce → w.tables.Unique ∧ TellsRows w) :
    Ends (call.act publishDir who) ((Call.owner who call).start w)
      ((Call.owner who call).Effect w) w := by
  cases call with
  | list =>
    refine .map _ (.of_commits Channel.Service.list_commits ?_)
    rintro _ _ ⟨who, rfl, -, rfl⟩
    exact .read rfl
  | create name =>
    refine .map _ (Triple.mono Channel.Service.create_triple ?_ fun _ _ h => h)
    rintro _ _ ⟨who, n, t, rfl, rfl, -, ht, hv⟩
    exact ⟨t, .create ht, hv⟩
  | setAnnounce name announce =>
    obtain ⟨hkeys, htag⟩ := hset name announce rfl
    refine .map _ (.of_commits (Channel.Service.setAnnounce_commits hkeys htag) ?_)
    rintro _ _ ⟨who, n, rfl, rfl, htold, rfl⟩
    exact .setAnnounce_told hkeys htold
  | delete name =>
    refine .map _ (.of_commits Channel.Service.delete_commits ?_)
    rintro _ _ ⟨who, n, rfl, rfl, rfl⟩
    exact .delete who n
  | setOwnerAnnounce announce =>
    refine .map _ (.of_commits Channel.Service.setOwnerAnnounce_commits ?_)
    rintro _ _ ⟨who, rfl, rfl⟩
    exact .setOwnerAnnounce who announce

theorem Call.act_ends (publishDir : String) (hkeys : w.tables.Unique) (htag : TellsRows w)
    (call : Call) : Ends (call.act publishDir) (call.start w) (call.Effect w) w := by
  cases call with
  | owner who call => exact .mapError _ (call.act_ends publishDir fun _ _ _ => ⟨hkeys, htag⟩)
  | byKey name key => exact .map _ (.of_commits Ingest.byKey_commits fun _ _ h => h ▸ .read rfl)
  | byUrl url => exact .map _ (.of_commits Ingest.byUrl_commits fun _ _ h => h ▸ .read rfl)
  | byChallenge ftlId nonce digest =>
    exact .map _ (.of_commits Ingest.byChallenge_commits fun _ _ h => h ▸ .read rfl)
  | listLive =>
    exact .map _ (.mapError _ (.of_commits Directory.listLive_commits fun _ _ h => h.2 ▸ .read rfl))
  | list thumbBase liveBase =>
    exact .map _ (.mapError _ (.of_commits Directory.list_commits fun _ _ h => h.2 ▸ .read rfl))
  | thumbnail name =>
    exact .map _ (.mapError _ (.of_commits Directory.thumbnail_commits fun _ _ h => h ▸ .read rfl))
  | putThumbnail name picture =>
    refine .map _ (.mapError _ (.of_commits Directory.putThumbnail_commits ?_))
    rintro _ _ ⟨n, rfl, rfl⟩
    exact .putThumbnail n picture

def Call.Reached (call : Call) (w w' : World) : Prop :=
  w'.tables = w.tables ∨ call.Effect w w'.tables

/-- Whatever the store answers to a change, an owner's call leaves the tables of the start or those
that it is meant to leave. -/
theorem OwnerCall.act_reaches (publishDir : String) (hkeys : w.tables.Unique) (call : OwnerCall) :
    Triple (call.act publishDir who) w (fun _ => (Call.owner who call).Reached w)
      (fun _ => (Call.owner who call).Reached w) := by
  have hends (h : Ends (call.act publishDir who) ((Call.owner who call).start w)
      ((Call.owner who call).Effect w) w) :
      Triple (call.act publishDir who) w (fun _ => (Call.owner who call).Reached w)
        (fun _ => (Call.owner who call).Reached w) := by
    refine Triple.mono h ?_ fun _ _ hv => .inl hv.tables_eq
    rintro _ w' ⟨t, ht, hv⟩
    exact .inr (hv.tables_eq ▸ ht)
  cases call with
  | list | create | delete | setOwnerAnnounce =>
    exact hends (act_ends publishDir _ fun _ _ h => nomatch h)
  | setAnnounce name announce =>
    have hset : Triple (Channel.Registry.setAnnounce who name announce) w
        (fun _ => (Call.owner who (.setAnnounce name announce)).Reached w)
        (fun _ => (Call.owner who (.setAnnounce name announce)).Reached w) := by
      refine Triple.mono Channel.Registry.setAnnounce_triple ?_ ?_
      · rintro _ w' ⟨who, n, rfl, rfl, htold, hv⟩
        exact .inr (hv.tables_eq ▸ .setAnnounce_told hkeys htold)
      · rintro _ w' (hv | ⟨who, n, rfl, rfl, hnone, hv⟩)
        · exact .inl hv.tables_eq
        · cases hset : w.nextTag with
          | none =>
            exact .inl (hv.tables_eq.trans
              (Channel.Registry.setChannel_missing hkeys hset hnone))
          | some tag =>
            exact .inr (hv.tables_eq ▸ .setAnnounce fun htag => nomatch hset.symm.trans htag)
    rw [act, map_eq_pure_bind]
    exact Triple.bind (Triple.mapError hset fun _ _ h => h) fun _ _ h => .pure h

theorem Call.Effect.unique {call : Call} {t : Tables} (h : call.Effect w t)
    (hkeys : w.tables.Unique) : t.Unique := by
  cases h with
  | read => exact hkeys
  | create h => exact (hkeys.addUser _).addChannel h
  | setAnnounce => exact hkeys.setChannel _ _ _
  | delete who name => exact hkeys.deleteChannel who name
  | setOwnerAnnounce who announce => exact hkeys.setUser who announce
  | putThumbnail name picture => exact hkeys.setThumb name picture w.storeClock

end Service
end
end OnAir
