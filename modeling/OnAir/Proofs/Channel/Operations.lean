import OnAir.Channel.Registry
import OnAir.Proofs.Bytes.Hex
import OnAir.Proofs.Store.Maps
import OnAir.Proofs.Store.Statement

/-!
# Operations of the registry

What each operation does where the store raises nothing of its own: which of its texts it refuses,
what it answers and which tables it leaves behind.
-/

namespace OnAir.Channel

open Act (run run_bind)
open Store (Calm Follows Query Yields StoreError Tables checkStorable execute select)

-- -----------------------------------------------------------------------------
-- Sessions
-- -----------------------------------------------------------------------------

def meaning (operation : String) (e : StoreError) : RegistryError :=
  match e.family with
  | .uniqueViolation => .conflict operation
  | .outage => .unavailable operation
  | .other => .raised e

section
variable {w : World} {operation : String} {query : Query} {α : Type} {t : Tables} {e : StoreError}

theorem interpret_yields (operation : String) (e : StoreError) (w : World) :
    Yields (interpret operation e : Act RegistryError α) w (.error (meaning operation e))
      w.tables := by
  rw [interpret, meaning]
  cases e.family with
  | uniqueViolation | other => exact .fail _ rfl
  | outage => exact (Yields.note rfl).bind fun _ hv => .fail _ hv.tables_eq

theorem session_yields {body : Act StoreError α} (result : Except StoreError α) (hw : Calm w)
    (hbody : ∀ v, Calm v → Follows w w.tables v → Yields body v result t) :
    Yields (session operation body) w (result.mapError (meaning operation)) t := by
  have hconnection := Store.withConnection_yields hw hbody
  cases result with
  | ok a => exact hconnection.handle
  | error e =>
    exact hconnection.handle_error fun v hv => hv.tables_eq ▸ interpret_yields operation e v

theorem session_select {answer : Tables → α} (query : Query) (hw : Calm w)
    (h : query.texts.forM checkStorable = .ok ()) :
    Yields (session operation (select query answer)) w (.ok (answer w.tables)) w.tables := by
  refine session_yields (.ok _) hw fun v hv hfollows => ?_
  have hselect := Store.select_yields hv query answer
  rwa [Store.check_ok h, hfollows.tables_eq] at hselect

theorem select_refused {answer : Tables → α} (hw : Calm w)
    (h : query.check w.runtime.refusal = .error e) :
    Yields (session operation (select query answer)) w (.error (meaning operation e))
      w.tables := by
  refine session_yields (.error e) hw fun v hv hfollows => ?_
  have hselect := Store.select_yields hv query answer
  rwa [hfollows.runtime_eq, h, hfollows.tables_eq] at hselect

section
variable {verb : String} {update : Tables → Instant → Option (Tables × Nat)}

theorem session_execute {change : Tables × Nat} (query : Query) (hw : Calm w)
    (h : query.texts.forM checkStorable = .ok ())
    (hupdate : update w.tables w.storeClock = some change) :
    Yields (session operation (execute query verb update)) w
      (.ok (verb ++ " " ++ toString change.2)) change.1 := by
  refine session_yields (.ok _) hw fun v hv hfollows => Store.execute_yields query hv h ?_
  rw [hfollows.tables_eq, hfollows.storeClock_eq, hupdate]

theorem execute_refused (hw : Calm w) (h : query.check w.runtime.refusal = .error e) :
    Yields (session operation (execute query verb update)) w (.error (meaning operation e))
      w.tables := by
  refine session_yields (.error e) hw fun v hv hfollows => ?_
  rw [← hfollows.runtime_eq] at h
  exact hfollows.tables_eq ▸ Store.execute_refused hv h

end
end

-- -----------------------------------------------------------------------------
-- Secrets
-- -----------------------------------------------------------------------------

def secretAt (source : RandomSource) : String :=
  String.ofList (Hex.encode ((List.range 24).map fun k => source.byteAt (source.drawn + k)))

def skip (source : RandomSource) (count : Nat) : RandomSource :=
  { source with drawn := source.drawn + count }

def drawn (w : World) : World :=
  { w with random := skip w.random 24 }

theorem newSecret_run {ε : Type} (w : World) :
    run (newSecret : Act ε String) w = (.ok (secretAt w.random), drawn w) :=
  rfl

theorem length_secretAt (source : RandomSource) : (secretAt source).length = 48 := by
  simp [secretAt, Hex.length_encode]

theorem isLower_of_mem_secretAt {source : RandomSource} {c : Char}
    (h : c ∈ (secretAt source).toList) : Hex.isLower c = true := by
  rw [secretAt, String.toList_ofList] at h
  exact Hex.isLower_of_mem_encode h

def bytesAt (source : RandomSource) : Bytes :=
  (List.range 24).map fun k => source.byteAt (source.drawn + k)

theorem secretAt_inj {source other : RandomSource} :
    secretAt source = secretAt other ↔ bytesAt source = bytesAt other := by
  constructor
  · intro h
    have hdecoded := congrArg Hex.decode? (String.ofList_injective h)
    rw [Hex.decode?_encode, Hex.decode?_encode] at hdecoded
    exact Option.some.inj hdecoded
  · intro h
    change String.ofList (Hex.encode (bytesAt source)) = String.ofList (Hex.encode (bytesAt other))
    rw [h]

theorem checkStorable_secretAt (source : RandomSource) :
    checkStorable (.text (secretAt source)) = .ok () := by
  refine Store.checkStorable_text.mpr fun hzero => ?_
  exact absurd (isLower_of_mem_secretAt hzero) (by decide)

namespace Registry

variable {w : World} {owner name : RawText} {e : StoreError} {t : Tables}

-- -----------------------------------------------------------------------------
-- Reading
-- -----------------------------------------------------------------------------

theorem channelsOf_yields (hw : Calm w) (h : [owner].forM checkStorable = .ok ()) :
    Yields (channelsOf owner) w (.ok ((w.tables.channelsOf owner.filled).map identityOf))
      w.tables :=
  (session_select (channelsQuery owner) hw h).bind fun _ hv => .pure _ hv.tables_eq

theorem authorize_owner (t : Tables) (row : Store.ChannelRow) :
    authorize row (t.userNamed? row.owner) = ⟨row.owner, row.name, t.announced row⟩ := by
  rw [authorize, Tables.and?_getD]
  rfl

theorem find_yields {column : Column} {value : RawText} (hw : Calm w)
    (h : [value].forM checkStorable = .ok ()) :
    Yields (find column value) w
      (match row? column value.filled w.tables with
        | some row => .ok (⟨row.owner, row.name, w.tables.announced row⟩, row.secret)
        | none => .error (.notFound value.filled))
      w.tables := by
  refine (session_select (findQuery column value) hw h).bind fun v hv => ?_
  simp only [authorize_owner]
  cases row? column value.filled w.tables with
  | none => exact .fail _ hv.tables_eq
  | some row =>
    exact .pure _ hv.tables_eq

section
variable {row : Store.ChannelRow} {value : RawText}

theorem find_found (column : Column) (hw : Calm w) (hvalue : checkStorable value = .ok ())
    (hrow : row? column value.filled w.tables = some row) :
    Yields (find column value) w
      (.ok (⟨row.owner, row.name, w.tables.announced row⟩, row.secret)) w.tables := by
  have hfind : Yields (find column value) w _ w.tables := find_yields hw (by simp [hvalue])
  rwa [hrow] at hfind

theorem find_missing (column : Column) (hw : Calm w) (hvalue : checkStorable value = .ok ())
    (hrow : row? column value.filled w.tables = none) :
    Yields (find column value) w (.error (.notFound value.filled)) w.tables := by
  have hfind : Yields (find column value) w _ w.tables := find_yields hw (by simp [hvalue])
  rwa [hrow] at hfind

theorem find_refused {column : Column} {reason : Store.TextError} (hw : Calm w)
    (h : checkStorable value = .error reason) :
    Yields (find column value) w
      (.error (meaning "find_channel" (w.runtime.refusal.error [.text value] reason))) w.tables := by
  have hcheck : (findQuery column value).check w.runtime.refusal = _ :=
    Store.check_error (e := reason) (by simp [h])
  exact (select_refused hw hcheck).bind_error

theorem find_zero (column : Column) (hw : Calm w) (h : 0 ∈ value.codes) :
    Yields (find column value) w (.error (.unavailable "find_channel")) w.tables := by
  have hzero : checkStorable value = .error .zeroCharacter := by simp [checkStorable, h]
  exact find_refused hw hzero

theorem find_broken (column : Column) {codes : List Nat} (hw : Calm w) (h : 0 ∉ codes) :
    Yields (find column (.broken codes)) w
      (.error (meaning "find_channel"
        (w.runtime.refusal.error [.text (.broken codes)] (.surrogate ⟨codes⟩)))) w.tables := by
  have hcodes : 0 ∉ RawText.codes (.broken codes) := h
  exact find_refused hw (by simp [checkStorable, hcodes, RawText.proper])

end

theorem thumbnail_yields (hw : Calm w) (h : [name].forM checkStorable = .ok ()) :
    Yields (thumbnail name) w
      (match w.tables.thumbNamed? name.filled with
        | some row => .ok row.picture
        | none => .error (.notFound name.filled))
      w.tables := by
  refine (session_select (thumbnailQuery name) hw h).bind fun v hv => ?_
  cases w.tables.thumbNamed? name.filled with
  | none => exact .fail _ hv.tables_eq
  | some row => exact .pure _ hv.tables_eq

/-- Checks that all times of a listing are dates: row after row, with the time of the store each
time. -/
def checkTimes (times : List Instant) (now : Instant) : Except Instant.RangeError Unit :=
  times.forM fun time => [time, now].forM Instant.dated

theorem checkTimes_ok {times : List Instant} {now : Instant} (hnow : now.dated = .ok ())
    (htimes : ∀ time ∈ times, Instant.dated time = .ok ()) : checkTimes times now = .ok () := by
  induction times with
  | nil => rfl
  | cons time rest ih =>
    have hfirst : [time, now].forM Instant.dated = .ok () := by
      simp [htimes time List.mem_cons_self, hnow]
      rfl
    change ([time, now].forM Instant.dated >>= fun _ => checkTimes rest now) = _
    rw [hfirst]
    exact ih fun time hmem => htimes time (List.mem_cons_of_mem _ hmem)

def listing (rows : List (String × Instant)) (now : Instant) :
    Except RegistryError (List (String × Instant) × Option Instant) :=
  ((checkTimes (rows.map (·.2)) now).mapError fun e => .raised (.undated e)).map
    fun _ => (rows, if rows.isEmpty then none else some now)

theorem checkDates_run (rows : List Store.ThumbRow) (now : Instant) (w : World) :
    run (rows.forM fun row => Store.checkDates [row.updated, now]) w
      = ((checkTimes (rows.map (·.updated)) now).mapError .undated, w) := by
  simp only [Store.checkDates, checkTimes]
  rw [Act.run_forM_ofExcept, forM_mapError]
  simp only [List.forM_eq_forM, List.forM_map]

theorem datedThumbs_yields (hw : Calm w) :
    Yields datedThumbs w
      (((checkTimes (w.tables.announcedThumbs.map (·.updated)) w.storeClock).mapError
        .undated).map fun _ => (w.tables.announcedThumbs, w.storeClock)) w.tables := by
  refine .tells (Store.logged_tells _ _) ⟨w, ?_, .refl w⟩
  have hsend : run (Store.send livenessQuery) w = (.ok (), w) :=
    (Store.send_run hw _).trans (by rw [Store.check_ok rfl])
  simp only [run_bind, hsend, Act.run_look, Act.run_storeNow, checkDates_run]
  cases checkTimes (w.tables.announcedThumbs.map (·.updated)) w.storeClock <;> rfl

theorem liveness_yields (hw : Calm w) :
    Yields liveness w
      (listing (w.tables.announcedThumbs.map fun row => (row.name, row.updated)) w.storeClock)
      w.tables := by
  let times := w.tables.announcedThumbs.map (·.updated)
  have hsession : Yields (session "list_liveness" datedThumbs) w _ w.tables := session_yields
    (((checkTimes times w.storeClock).mapError .undated).map
      fun _ => (w.tables.announcedThumbs, w.storeClock)) hw fun v hv hfollows => by
        have hdated := datedThumbs_yields hv
        rwa [hfollows.tables_eq, hfollows.storeClock_eq] at hdated
  simp only [listing, List.map_map, List.isEmpty_map]
  change Yields liveness w (((checkTimes times w.storeClock).mapError _).map _) w.tables
  cases hcheck : checkTimes times w.storeClock with
  | ok u =>
    rw [hcheck] at hsession
    exact hsession.bind fun _ hv => .pure _ hv.tables_eq
  | error e =>
    rw [hcheck] at hsession
    exact hsession.bind_error

-- -----------------------------------------------------------------------------
-- Changing
-- -----------------------------------------------------------------------------

theorem rowsAffected_update (changed : Bool) :
    rowsAffected (.str (.text ("UPDATE" ++ " " ++ toString (if changed then 1 else 0))))
      = if changed then 1 else 0 := by
  cases changed <;> decide +kernel

theorem setAnnounce_yields {announce : Bool} (hw : Calm w) (hunique : w.tables.Unique)
    (h : [owner, name].forM checkStorable = .ok ()) :
    Yields (setAnnounce owner name announce) w
      (if w.tables.maps.owns owner.filled name.filled then .ok ()
        else .error (.notFound name.filled))
      (w.tables.setChannel owner.filled name.filled announce).1 := by
  refine (session_execute (setAnnounceQuery owner name announce) hw h rfl).bind fun v hv => ?_
  rw [Tables.setChannel, Tables.countP_channel hunique owner.filled name.filled,
    rowsAffected_update]
  cases w.tables.maps.owns owner.filled name.filled with
  | true => exact .pure () hv.tables_eq
  | false => exact .fail _ hv.tables_eq

theorem setOwnerAnnounce_yields {announce : Bool} (hw : Calm w)
    (h : [owner].forM checkStorable = .ok ()) :
    Yields (setOwnerAnnounce owner announce) w (.ok ())
      (w.tables.setUser owner.filled announce) :=
  (session_execute (setOwnerAnnounceQuery owner announce) hw h rfl).bind fun _ hv => .pure () hv.tables_eq

theorem delete_yields (hw : Calm w) (h : [owner, name].forM checkStorable = .ok ()) :
    Yields (delete owner name) w (.ok ())
      (w.tables.deleteChannel owner.filled name.filled).1 :=
  (session_execute (deleteQuery owner name) hw h rfl).bind fun _ hv => .pure () hv.tables_eq

theorem putThumbnail_yields {picture : Bytes} (hw : Calm w)
    (h : [name].forM checkStorable = .ok ()) :
    Yields (putThumbnail name picture) w (.ok ())
      (w.tables.setThumb name.filled picture w.storeClock) :=
  (session_execute (putThumbnailQuery name picture) hw h rfl).bind fun _ hv => .pure () hv.tables_eq

-- -----------------------------------------------------------------------------
-- Creating
-- -----------------------------------------------------------------------------

section
variable {v : World} {secret : String}

/-- Once there is a row for the owner, the channel is added to the tables that have it. -/
theorem insert_addUser {result : Except StoreError Unit} (hv : Calm v)
    (h : [owner].forM checkStorable = .ok ())
    (hchannel : ∀ u, Calm u → Follows v (v.tables.addUser owner.filled).1 u →
      Yields (do
          let _ ← execute (addChannelQuery owner name secret) "INSERT 0" fun t _ =>
            (t.addChannel? owner.filled name.filled secret).map (·, 1)) u result t) :
    Yields (insert owner name secret) v result t := by
  have huser : Yields (execute (addUserQuery owner) "INSERT 0"
      fun t _ => some (t.addUser owner.filled)) v _ (v.tables.addUser owner.filled).1 :=
    Store.execute_yields (addUserQuery owner) hv h rfl
  exact huser.bind fun u hu => hchannel u (hu.calm hv) hu

theorem owner_ok (h : [owner, name, .text secret].forM checkStorable = .ok ()) :
    [owner].forM checkStorable = .ok () := by
  simp [Store.storable_of_mem h (.head _)]

theorem insert_yields (hv : Calm v)
    (h : [owner, name, .text secret].forM checkStorable = .ok ())
    (hadd : (v.tables.addUser owner.filled).1.addChannel? owner.filled name.filled secret
      = some t) :
    Yields (insert owner name secret) v (.ok ()) t := by
  refine insert_addUser hv (owner_ok h) fun u hcalm hu => ?_
  have hupdate : (u.tables.addChannel? owner.filled name.filled secret).map (·, 1)
      = some (t, 1) := by
    rw [hu.tables_eq, hadd]
    rfl
  exact (Store.execute_yields (addChannelQuery owner name secret) hcalm h hupdate).bind
    fun _ hend => .pure () hend.tables_eq

theorem insert_duplicate (hv : Calm v)
    (h : [owner, name, .text secret].forM checkStorable = .ok ())
    (hadd : (v.tables.addUser owner.filled).1.addChannel? owner.filled name.filled secret = none) :
    Yields (insert owner name secret) v (.error .duplicate)
      (v.tables.addUser owner.filled).1 := by
  refine insert_addUser hv (owner_ok h) fun u hcalm hu => ?_
  rw [← hu.tables_eq] at hadd ⊢
  refine (Store.execute_duplicate (addChannelQuery owner name secret) hcalm h ?_).bind_error
  rw [hadd]
  rfl

theorem insert_refused (hv : Calm v)
    (h : [addUserQuery owner, addChannelQuery owner name secret].forM
      (·.check v.runtime.refusal) = .error e) :
    ∃ t, Yields (insert owner name secret) v (.error e) t := by
  simp only [List.forM_eq_forM, List.forM_cons, List.forM_nil] at h
  cases huser : (addUserQuery owner).check v.runtime.refusal with
  | error other =>
    rw [huser] at h
    cases h
    exact ⟨_, (Store.execute_refused hv huser).bind_error⟩
  | ok u =>
    have hchannel : (addChannelQuery owner name secret).check v.runtime.refusal = .error e := by
      rw [huser] at h
      cases hcheck : (addChannelQuery owner name secret).check v.runtime.refusal with
      | error other => rw [hcheck] at h; exact h
      | ok u => rw [hcheck] at h; cases h
    refine ⟨(v.tables.addUser owner.filled).1,
      insert_addUser hv (Store.texts_of_check huser) fun u hcalm hu => ?_⟩
    rw [← hu.runtime_eq] at hchannel
    exact hu.tables_eq ▸ (Store.execute_refused hcalm hchannel).bind_error

end

theorem create_failed (raised : StoreError) (hw : Calm w)
    (hbody : ∀ v, Calm v → Follows (drawn w) w.tables v →
      ∃ t, Yields (insert owner name (secretAt w.random)) v (.error raised) t) :
    ∃ w', run (create owner name) w = (.error (meaning "create_channel" raised), w')
      ∧ Follows (drawn w) w.tables w' := by
  have hdrawn : Calm (drawn w) := ⟨hw.faults, hw.isOpen, hw.tag⟩
  have hsession : Yields (session "create_channel" (Store.transaction
      (insert owner name (secretAt w.random)))) (drawn w) _ w.tables :=
    session_yields (.error raised) hdrawn fun v hv hfollows => by
      refine hfollows.tables_eq ▸ Store.transaction_failed hv fun v' hv' hfollows' => ?_
      exact hbody v' hv' (hfollows.trans (hfollows.tables_eq ▸ hfollows'))
  rw [create, run_bind, newSecret_run]
  exact hsession.bind_error

theorem create_refused (hw : Calm w)
    (h : [addUserQuery owner, addChannelQuery owner name (secretAt w.random)].forM
      (·.check w.runtime.refusal) = .error e) :
    ∃ w', run (create owner name) w = (.error (meaning "create_channel" e), w')
      ∧ Follows (drawn w) w.tables w' :=
  create_failed e hw fun _ hv hfollows =>
    insert_refused hv (by rw [hfollows.runtime_eq]; exact h)

theorem create_conflict (hw : Calm w)
    (h : [owner, name, .text (secretAt w.random)].forM checkStorable = .ok ())
    (htaken : (w.tables.maps.channels name.filled).isSome = true) :
    ∃ w', run (create owner name) w = (.error (.conflict "create_channel"), w')
      ∧ Follows (drawn w) w.tables w' := by
  refine create_failed .duplicate hw fun v hv hfollows => ?_
  refine ⟨_, insert_duplicate hv h ?_⟩
  rw [Tables.addChannel?_eq_none, Tables.maps_addUser, hfollows.tables_eq]
  exact htaken

theorem create_added (hw : Calm w)
    (h : [owner, name, .text (secretAt w.random)].forM checkStorable = .ok ())
    (hadd : (w.tables.addUser owner.filled).1.addChannel? owner.filled name.filled
      (secretAt w.random) = some t) :
    ∃ w', run (create owner name) w
        = (.ok ⟨owner.filled, name.filled, secretAt w.random, none, true⟩, w')
      ∧ Follows (drawn w) t w' := by
  have hdrawn : Calm (drawn w) := ⟨hw.faults, hw.isOpen, hw.tag⟩
  have hsession : Yields (session "create_channel" (Store.transaction
      (insert owner name (secretAt w.random)))) (drawn w) _ t :=
    session_yields (.ok ()) hdrawn fun v hv hfollows =>
      Store.transaction_yields hv fun v' hv' hfollows' =>
        insert_yields hv' h (by
          rw [hfollows'.tables_eq, hfollows.tables_eq]
          exact hadd)
  rw [create, run_bind, newSecret_run]
  exact hsession.bind fun _ hv => (Yields.note hv.tables_eq).bind fun _ hnote =>
    .pure _ hnote.tables_eq

end Registry
end OnAir.Channel
