import OnAir.Proofs.App.Beside
import OnAir.Proofs.Login.Steps
import OnAir.Proofs.Service.Calls
import OnAir.Proofs.Store.Rows
import OnAir.Proofs.Url.Percent

/-!
# What a request makes of the tables

Whatever it asks for, and however the store fails and whatever tags it answers with, a request leaves
the tables as they are or makes one change to them. Only one that creates a channel adds the row of a
channel, with a name that was checked and a key made of the bytes that it drew; and what is done for an
owner is done for one who has a name.
-/

namespace OnAir

open Act (Alike Quiet Triple run)
open Channel (bytesAt isNameChar secretAt skip)
open Http (Request Response)
open Store (ChannelRow Commits Leaves Tables)

-- -----------------------------------------------------------------------------
-- Names
-- -----------------------------------------------------------------------------

namespace Channel

structure ProperName (name : String) : Prop where
  pos : 0 < name.length
  le : name.length ≤ 64
  chars : ∀ c ∈ name.toList, isNameChar c = true

theorem newName_ok {value : Json} {name : String} (h : newName value = .ok name) :
    ProperName name := by
  unfold newName Validation.textFrom at h
  cases htext : Validation.text value with
  | error e =>
    rw [htext] at h
    cases h
  | ok s =>
    rw [htext] at h
    simp only [bind, Except.bind] at h
    by_cases hpos : s.length < 1
    · rw [if_pos hpos] at h
      cases h
    rw [if_neg hpos] at h
    simp only [pure, Except.pure] at h
    by_cases hle : 64 < s.length
    · rw [if_pos hle] at h
      cases h
    rw [if_neg hle] at h
    by_cases hall : s.toList.all isNameChar = true
    · rw [hall] at h
      cases h
      exact ⟨by omega, by omega, List.all_eq_true.mp hall⟩
    · rw [Bool.not_eq_true] at hall
      rw [hall] at h
      cases h

theorem NewChannel.read_ok {fields : Validation.Fields} {channel : Submission.NewChannel}
    (h : Submission.NewChannel.read fields = .ok channel) : ProperName channel.name := by
  unfold Submission.NewChannel.read Validation.required at h
  cases hvalue : fields.lookup (.text "name") with
  | none =>
    rw [hvalue] at h
    cases h
  | some value =>
    simp only [hvalue] at h
    cases hname : newName value with
    | error problem =>
      rw [hname] at h
      cases h
    | ok name =>
      rw [hname] at h
      cases h
      exact newName_ok hname

theorem isUnreserved_of_isNameChar {c : Char} (h : isNameChar c = true) :
    Url.isUnreserved c = true := by
  have hall : ∀ n < 128, isNameChar (Char.ofNat n) = true →
      Url.isUnreserved (Char.ofNat n) = true := by decide +kernel
  have hlt : c.toNat < 128 := by
    have hval : c.val.toNat = c.toNat := rfl
    simp only [isNameChar, Bool.or_eq_true, Bool.and_eq_true, decide_eq_true_eq, beq_iff_eq,
      Char.le_def, UInt32.le_iff_toNat_le, hval] at h
    rcases h with (((h | h) | h) | rfl) | rfl
    · exact Nat.lt_of_le_of_lt h.2 (by decide)
    · exact Nat.lt_of_le_of_lt h.2 (by decide)
    · exact Nat.lt_of_le_of_lt h.2 (by decide)
    all_goals decide
  rw [← Char.ofNat_toNat c] at h ⊢
  exact hall _ hlt h

theorem ProperName.segment {name : String} (h : ProperName name) : Url.segment name = name :=
  Url.segment_of_unreserved fun c hc => isUnreserved_of_isNameChar (h.chars c hc)

end Channel

-- -----------------------------------------------------------------------------
-- One request
-- -----------------------------------------------------------------------------

structure RandomSource.Onward (r r' : RandomSource) : Prop where
  byteAt : r'.byteAt = r.byteAt
  drawn : r.drawn ≤ r'.drawn

namespace RandomSource.Onward

variable {a b c : RandomSource}

theorem refl (a : RandomSource) : a.Onward a :=
  ⟨rfl, le_rfl⟩

theorem trans (h : a.Onward b) (h' : b.Onward c) : a.Onward c :=
  ⟨h'.byteAt.trans h.byteAt, h.drawn.trans h'.drawn⟩

end RandomSource.Onward

namespace App

/-- What a request makes of the tables and of the source of random bytes. -/
inductive Deed (t : Tables) (r : RandomSource) (w' : World) : Prop
  | still (htables : w'.tables = t) (hrandom : r.Onward w'.random)
  | create {who name : String} (howner : who ≠ "") (hname : Channel.ProperName name)
      (hadded : (t.addUser who).1.addChannel? who name (secretAt r) = some w'.tables)
      (hrandom : w'.random = skip r 24)
  | setAnnounce {who name : String} {announce : Bool}
      (htables : w'.tables = (t.setChannel who name announce).1) (hrandom : w'.random = r)
  | delete {who name : String} (htables : w'.tables = (t.deleteChannel who name).1)
      (hrandom : w'.random = r)
  | setOwnerAnnounce {who : String} {announce : Bool} (howner : who ≠ "")
      (htables : w'.tables = t.setUser who announce) (hrandom : w'.random = r)
  | putThumbnail {name : String} {picture : Bytes} {now : Instant}
      (htables : w'.tables = t.setThumb name picture now) (hrandom : w'.random = r)

theorem Deed.noting {t : Tables} {r : RandomSource} {w' : World} (h : Deed t r w')
    (lines : List Log.Entry) : Deed t r (w'.noting lines) := by
  cases h with
  | still htables hrandom => exact .still htables hrandom
  | create howner hname hadded hrandom => exact .create howner hname hadded hrandom
  | setAnnounce htables hrandom => exact .setAnnounce htables hrandom
  | delete htables hrandom => exact .delete htables hrandom
  | setOwnerAnnounce howner htables hrandom => exact .setOwnerAnnounce howner htables hrandom
  | putThumbnail htables hrandom => exact .putThumbnail htables hrandom

/-- A row is added to those of the channels, with a key made of the next bytes. -/
structure Added (t : Tables) (r : RandomSource) (w' : World) (row : ChannelRow) : Prop where
  channels : w'.tables.channels = t.channels ++ [⟨row.owner, row.name, row.secret, none, true⟩]
  secret : row.secret = String.ofList (Hex.encode (bytesAt r))
  random : w'.random = skip r 24

structure Kept (t : Tables) (r : RandomSource) (w : World) : Prop where
  tables_eq : w.tables = t
  random_eq : w.random = r

/-- An operation does no more than a request may do. -/
def Does (t : Tables) (r : RandomSource) (act : Act RequestError Response) (w : World) : Prop :=
  Triple act w (fun _ => Deed t r) (fun _ => Deed t r)

section
variable {t : Tables} {r r' : RandomSource} {w w' : World}

theorem Kept.quiet (t : Tables) (r : RandomSource) : Quiet (fun w v => w = v ∧ Kept t r w) :=
  .same (fun _ _ h => ⟨h.tables_eq, h.random_eq⟩) fun _ _ h => ⟨h.tables_eq, h.random_eq⟩

theorem Kept.deed (h : Kept t r' w) (hrandom : r.Onward r') : Deed t r w :=
  .still h.tables_eq (h.random_eq ▸ hrandom)

theorem Kept.still (h : Kept t r w) : Deed t r w :=
  h.deed (.refl r)

theorem Kept.of_leaves (h : Kept t r w) (hleaves : Leaves w w.tables w') : Kept t r w' :=
  ⟨hleaves.tables_eq.trans h.tables_eq, hleaves.random_eq.trans h.random_eq⟩

theorem onward_skip (r : RandomSource) (count : Nat) : r.Onward (skip r count) :=
  ⟨rfl, Nat.le_add_right _ _⟩

theorem Kept.of_alike {ε α : Type} {act : Act ε α} (h : Kept t r w)
    (hact : Alike (fun w v => w = v ∧ Kept t r w) act) :
    Triple act w (fun _ => Kept t r) (fun _ => Kept t r) :=
  Triple.of_world (hact.keeps h)

-- -----------------------------------------------------------------------------
-- Admission
-- -----------------------------------------------------------------------------

theorem owner_triple (app : App) (request : Request) (h : Kept t r w) :
    Triple (app.owner request) w (fun identity w' => identity.id ≠ "" ∧ Kept t r w')
      (fun _ => Kept t r) := by
  have hkept := h.of_alike (app.owner_alike request (Kept.quiet t r))
  rcases hrun : run (app.owner request) w with ⟨e | identity, w'⟩
  · exact Triple.of_run_error hrun (hkept.error hrun)
  · refine Triple.of_run hrun ⟨?_, hkept.ok hrun⟩
    have hresult := congrArg Prod.fst hrun
    rw [owner, Act.run_mapError, mapError_ok] at hresult
    have hnamed := Login.Flow.unsealIdentity_named
      (Login.Flow.requireIdentity_ok (Act.run_eq hresult))
    exact of_decide_eq_false hnamed

theorem Does.after {α : Type} {gate : Act RequestError α} {f : α → Act RequestError Response}
    {P : α → Prop} (hgate : Triple gate w (fun a w' => P a ∧ Kept t r w') (fun _ => Kept t r))
    (hf : ∀ a v, P a → Kept t r v → Does t r (f a) v) : Does t r (gate >>= f) w :=
  Triple.bind (Triple.mono_error hgate fun _ _ h => h.still) fun a v ⟨ha, hv⟩ => hf a v ha hv

theorem read_ok {α : Type} {reader : Validation.Fields → Validation.Checked α} {body : Http.Body}
    {record : α} (h : body.read reader = .ok record) : ∃ fields, reader fields = .ok record := by
  rw [Http.Body.read, mapError_ok] at h
  cases hfields : body.fields with
  | error e =>
    rw [hfields] at h
    cases h
  | ok fields =>
    rw [hfields] at h
    exact ⟨fields, h⟩

theorem submitted_does {α β : Type} {request : Request} {gate : Act RequestError β}
    {reader : Validation.Fields → Validation.Checked α} {act : β → α → Act RequestError Response}
    {P : β → Prop} (h : Kept t r w)
    (hgate : ∀ v, Kept t r v → Triple gate v (fun who w' => P who ∧ Kept t r w') fun _ => Kept t r)
    (hact : ∀ who record v, P who → (∃ fields, reader fields = .ok record) → Kept t r v →
      Does t r (act who record) v) : Does t r (submitted request gate reader act) w := by
  refine .after (P := fun _ => True) (.ofExcept (fun _ _ => ⟨trivial, h⟩) fun _ _ => h)
    fun body v _ hv => .after (hgate v hv) fun who v' hwho hv' => ?_
  refine .after (P := fun record => ∃ fields, reader fields = .ok record)
    (.ofExcept (fun record hrecord => ⟨read_ok (mapError_ok.mp hrecord), hv'⟩) fun _ _ => hv') ?_
  exact fun record v'' hrecord hv'' => hact who record v'' hwho hrecord hv''

theorem engine_triple (app : App) (request : Request) (h : Kept t r w) :
    Triple (app.engine request) w (fun _ w' => True ∧ Kept t r w') (fun _ => Kept t r) :=
  Triple.mono (h.of_alike (app.engine_alike request (Kept.quiet t r))) (fun _ _ h => ⟨trivial, h⟩)
    fun _ _ h => h

-- -----------------------------------------------------------------------------
-- Endpoints
-- -----------------------------------------------------------------------------

namespace Does

theorem of_alike {act : Act RequestError Response} (h : Kept t r w)
    (hact : Alike (fun w v => w = v ∧ Kept t r w) act) : Does t r act w :=
  Triple.mono (h.of_alike hact) (fun _ _ h => h.still) fun _ _ h => h.still

theorem of_triple {ε α : Type} {act : Act ε α} {toError : ε → RequestError} {answer : α → Response}
    (hact : Triple act w (fun _ => Deed t r) (fun _ => Deed t r)) :
    Does t r (act.mapError toError >>= fun a => pure (answer a)) w :=
  Triple.bind (hact.mapError fun _ _ h => h) fun _ _ h => Triple.pure h

theorem of_commits {ε α : Type} {act : Act ε α} {fits : α → Tables → Prop}
    {toError : ε → RequestError} {answer : α → Response} (h : Kept t r w)
    (hact : Commits act w fits)
    (hfits : ∀ a w', fits a w'.tables → w'.random = r → Deed t r w') :
    Does t r (act.mapError toError >>= fun a => pure (answer a)) w := by
  refine of_triple (Triple.mono hact ?_ fun _ _ hleaves => (h.of_leaves hleaves).still)
  rintro a w' ⟨t', hfit, hleaves⟩
  exact hfits a w' (hleaves.tables_eq ▸ hfit) (hleaves.random_eq.trans h.random_eq)

theorem of_reads {ε α : Type} {act : Act ε α} {fits : α → Tables → Prop}
    {toError : ε → RequestError} {answer : α → Response} (h : Kept t r w)
    (hact : Commits act w fits) (hfits : ∀ a t', fits a t' → t' = w.tables) :
    Does t r (act.mapError toError >>= fun a => pure (answer a)) w :=
  of_commits h hact fun a _ hfit hrandom =>
    Kept.still ⟨(hfits a _ hfit).trans h.tables_eq, hrandom⟩

end Does

theorem initiate_does (app : App) (h : Kept t r w) : Does t r app.initiate w := by
  have hlater {v : World} (hv : Kept t (skip r 9) v) : Deed t r v := hv.deed (onward_skip r 9)
  have hflow : Triple app.flow.initiate w (fun _ => Kept t (skip r 9)) (fun _ => Deed t r) := by
    refine Triple.bind (Triple.mono_error
      (h.of_alike (Login.Flow.requireConfigured_alike app.flow [])) fun _ _ hv => hv.still)
      fun sealer v hv => ?_
    have hstate : Kept t (skip r 9) { v with random := skip v.random 9 } :=
      ⟨hv.tables_eq, congrArg (skip · 9) hv.random_eq⟩
    refine Triple.bind (Q := fun _ => Kept t (skip r 9))
      (Triple.of_run (Login.newState_run v) hstate) fun state v' hv' => ?_
    exact Triple.bind (Triple.mono_error
      (hv'.of_alike (Login.Flow.sealCookie_alike (Kept.quiet _ _))) fun _ _ => hlater)
      fun _ _ hv => Triple.pure hv
  refine Triple.bind (hflow.mapError fun _ _ hv => hv) fun step v hv => ?_
  exact Triple.mono (hv.of_alike (app.withCookies_alike (Kept.quiet _ _) _ _))
    (fun _ _ => hlater) fun _ _ => hlater

theorem createChannel_does (app : App) (request : Request) (h : Kept t r w) :
    Does t r (app.createChannel request) w := by
  refine submitted_does h (fun _ => app.owner_triple request) ?_
  rintro owner channel v hid ⟨fields, hread⟩ hv
  have hname := Channel.NewChannel.read_ok hread
  refine .of_triple (Triple.mono Channel.Service.create_triple ?_ ?_)
  · rintro _ w' ⟨who, name, t', howner, heq, -, hadded, hleaves⟩
    cases heq
    refine .create (fun hempty => hid (howner.trans (congrArg RawText.text hempty))) hname ?_
      (hleaves.random_eq.trans (congrArg (skip · 24) hv.random_eq))
    rw [hleaves.tables_eq, ← hv.tables_eq, ← hv.random_eq, hadded]
  · intro e w' hleaves
    have hkept : Kept t (skip r 24) w' := ⟨hleaves.tables_eq.trans hv.tables_eq,
      hleaves.random_eq.trans (congrArg (skip · 24) hv.random_eq)⟩
    exact hkept.deed (onward_skip r 24)

theorem Kept.setAnnounce {who name : String} {announce : Bool} (h : Kept t r w)
    (hleaves : Leaves w (w.tables.setChannel who name announce).1 w') : Deed t r w' :=
  .setAnnounce (h.tables_eq ▸ hleaves.tables_eq) (hleaves.random_eq.trans h.random_eq)

/-- The switch of a channel may be set and the owner told that there is no such channel. -/
theorem setAnnounce_does (app : App) (name : String) (request : Request) (h : Kept t r w) :
    Does t r (app.setAnnounce name request) w := by
  refine submitted_does h (fun _ => app.owner_triple request) ?_
  rintro owner change v - - hv
  refine .of_triple (Triple.mapError (Triple.mono Channel.Registry.setAnnounce_triple ?_ ?_)
    fun _ _ h => h)
  · rintro _ w' ⟨who, n, -, -, -, hleaves⟩
    exact hv.setAnnounce hleaves
  · rintro _ w' (hleaves | ⟨who, n, -, -, -, hleaves⟩)
    · exact (hv.of_leaves hleaves).still
    · exact hv.setAnnounce hleaves

theorem handle_does (app : App) (request : Request) (endpoint : Http.Endpoint) (h : Kept t r w) :
    Does t r (app.handle endpoint request) w := by
  have hquiet := Kept.quiet t r
  have howner (v : World) (hv : Kept t r v) := app.owner_triple request hv
  have hengine (v : World) (hv : Kept t r v) := app.engine_triple request hv
  cases endpoint with
  | initiate => exact app.initiate_does h
  | callback => exact .of_alike h (app.callback_alike request hquiet)
  | logout => exact .of_alike h (app.logout_alike hquiet)
  | user => exact .of_alike h (app.user_alike request hquiet)
  | listChannels =>
    refine .after (howner w h) fun owner v _ hv => ?_
    exact .of_reads hv Channel.Service.list_commits fun _ _ ⟨_, _, _, ht⟩ => ht
  | createChannel => exact app.createChannel_does request h
  | setAnnounce name => exact app.setAnnounce_does name request h
  | deleteChannel name =>
    refine .after (howner w h) fun owner v _ hv => ?_
    refine .of_commits hv Channel.Service.delete_commits ?_
    rintro _ w' ⟨who, n, -, -, ht⟩ hrandom
    exact .delete (hv.tables_eq ▸ ht) hrandom
  | setOwnerAnnounce =>
    refine submitted_does h howner fun owner change v hid _ hv => ?_
    refine .of_commits hv Channel.Service.setOwnerAnnounce_commits ?_
    rintro _ w' ⟨who, hwho, ht⟩ hrandom
    exact .setOwnerAnnounce (fun hempty => hid (hwho.trans (congrArg RawText.text hempty)))
      (hv.tables_eq ▸ ht) hrandom
  | directory => exact .of_reads h Directory.list_commits fun _ _ h => h.2
  | thumbnail name => exact .of_reads h Directory.thumbnail_commits fun _ _ h => h
  | admitPublisher =>
    refine submitted_does h hengine fun _ attempt v _ _ hv => ?_
    simp only
    split
    · exact .of_reads hv Ingest.byKey_commits fun _ _ h => h
    · exact .of_reads hv Ingest.byUrl_commits fun _ _ h => h
  | admitChallenger =>
    refine submitted_does h hengine fun _ attempt v _ _ hv => ?_
    exact .of_reads hv Ingest.byChallenge_commits fun _ _ h => h
  | putThumbnail name =>
    refine .after (hengine w h) fun _ v _ hv => ?_
    refine .of_commits hv Directory.putThumbnail_commits ?_
    rintro _ w' ⟨n, -, ht⟩ hrandom
    exact .putThumbnail (hv.tables_eq ▸ ht) hrandom
  | health => exact .of_alike h (.pure _)

theorem serve_deed (app : App) (request : Request) (w : World) :
    Deed w.tables w.random (app.serve request w).2 := by
  have hkept : Kept w.tables w.random (w.noting [request.arrival]) := ⟨rfl, rfl⟩
  have hrespond : Does w.tables w.random (app.respond request) (w.noting [request.arrival]) := by
    unfold respond
    cases Http.destination request.method request.path with
    | endpoint endpoint => exact app.handle_does request endpoint hkept
    | wrongMethod | elsewhere | nowhere => exact .of_alike hkept (.pure _)
  rcases hrun : run (app.respond request) (w.noting [request.arrival]) with ⟨e | response, w'⟩ <;>
    rw [serve_of_run hrun]
  · exact (hrespond.error hrun).noting _
  · exact (hrespond.ok hrun).noting _

-- -----------------------------------------------------------------------------
-- What a deed does to the rows
-- -----------------------------------------------------------------------------

namespace Deed

theorem onward (h : Deed t r w') : r.Onward w'.random := by
  cases h with
  | still _ hrandom => exact hrandom
  | create _ _ _ hrandom => exact hrandom ▸ onward_skip r 24
  | setAnnounce _ hrandom | delete _ hrandom | setOwnerAnnounce _ _ hrandom
  | putThumbnail _ hrandom => exact hrandom ▸ .refl r

theorem unique (h : Deed t r w') (hkeys : t.Unique) : w'.tables.Unique := by
  cases h with
  | still htables => exact htables ▸ hkeys
  | create _ _ hadded => exact (hkeys.addUser _).addChannel hadded
  | setAnnounce htables => exact htables ▸ hkeys.setChannel _ _ _
  | delete htables => exact htables ▸ hkeys.deleteChannel _ _
  | setOwnerAnnounce _ htables => exact htables ▸ hkeys.setUser _ _
  | putThumbnail htables => exact htables ▸ hkeys.setThumb _ _ _

theorem owners (h : Deed t r w') :
    t.owners ⊆ w'.tables.owners ∧ ∀ who ∈ w'.tables.owners, who ≠ "" ∨ who ∈ t.owners := by
  have hsame (htables : w'.tables.owners = t.owners) :
      t.owners ⊆ w'.tables.owners ∧ ∀ who ∈ w'.tables.owners, who ≠ "" ∨ who ∈ t.owners :=
    ⟨htables ▸ List.Subset.refl _, fun who hwho => .inr (htables ▸ hwho)⟩
  have hadded {a : String} (ha : a ≠ "")
      (hmem : ∀ who, who ∈ w'.tables.owners ↔ who = a ∨ who ∈ t.owners) :
      t.owners ⊆ w'.tables.owners ∧ ∀ who ∈ w'.tables.owners, who ≠ "" ∨ who ∈ t.owners :=
    ⟨fun who hwho => (hmem who).mpr (.inr hwho),
      fun who hwho => ((hmem who).mp hwho).imp_left fun (heq : who = a) => heq ▸ ha⟩
  cases h with
  | still htables => exact hsame (congrArg Tables.owners htables)
  | create howner _ hchannel _ =>
    refine hadded howner fun who => ?_
    rw [Tables.owners, (Tables.channels_addChannel hchannel).2]
    exact Tables.mem_owners_addUser
  | setAnnounce htables => exact hsame (htables ▸ Tables.owners_setChannel)
  | delete htables => exact hsame (htables ▸ Tables.owners_deleteChannel)
  | setOwnerAnnounce howner htables =>
    exact hadded howner fun who => htables ▸ Tables.mem_owners_setUser
  | putThumbnail htables => exact hsame (htables ▸ Tables.owners_setThumb)

/-- A row of a channel is left from before, or it has been added with a proper name and a new key. -/
theorem channels (h : Deed t r w') {row : ChannelRow} (hrow : row ∈ w'.tables.channels) :
    (∃ old ∈ t.channels, row.Succeeds old)
      ∨ (Channel.ProperName row.name ∧ row.owner ∈ w'.tables.owners ∧ row.ftlId = none
        ∧ Added t r w' row) := by
  have hkept (hmem : row ∈ t.channels) : ∃ old ∈ t.channels, row.Succeeds old :=
    ⟨row, hmem, rfl, rfl, rfl, rfl⟩
  cases h with
  | still htables => exact .inl (hkept (htables ▸ hrow))
  | @create who name howner hname hchannel hrandom =>
    obtain ⟨hchannels, husers⟩ := Tables.channels_addChannel hchannel
    rw [Tables.channels_addUser] at hchannels
    rw [hchannels, List.mem_append, List.mem_singleton] at hrow
    rcases hrow with hmem | rfl
    · exact .inl (hkept hmem)
    · refine .inr ⟨hname, ?_, rfl, hchannels, rfl, hrandom⟩
      rw [Tables.owners, husers]
      exact Tables.mem_owners_addUser.mpr (.inl rfl)
  | setAnnounce htables =>
    rw [htables] at hrow
    exact .inl (Tables.exists_of_mem_setChannel hrow)
  | delete htables =>
    rw [htables] at hrow
    exact .inl (hkept (Tables.mem_of_mem_deleteChannel hrow))
  | setOwnerAnnounce _ htables =>
    rw [htables, Tables.channels_setUser] at hrow
    exact .inl (hkept hrow)
  | putThumbnail htables =>
    rw [htables, Tables.channels_setThumb] at hrow
    exact .inl (hkept hrow)

end Deed
end

end App
end OnAir
