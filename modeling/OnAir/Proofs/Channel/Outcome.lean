import OnAir.Proofs.Channel.Operations
import OnAir.Proofs.Store.Outcome

/-!
# Operations of a registry whose store may fail anywhere

Every operation of the registry commits, whatever faults are to come: it ends with an error and has
not happened, or it ends with its result, and the tables are those before with one change made to
them. The one condition is on the store's own answers: a tag must not deny the rows that a change
has touched.
-/

namespace OnAir.Channel

open Act (Triple run)
open Store (Commits Idle Leaves Query StoreError Tables checkStorable execute select)

/-- A tag set aside for the next change does not deny that rows were changed. -/
def TellsRows (w : World) : Prop :=
  ∀ tag, w.nextTag = some tag → rowsAffected (.str (.text tag)) ≠ 0

section
variable {w : World} {operation : String} {query : Query} {α β : Type} {t : Tables}
  {fits : α → Tables → Prop}

-- -----------------------------------------------------------------------------
-- Sessions
-- -----------------------------------------------------------------------------

theorem interpret_commits (operation : String) (e : StoreError) (w : World) :
    Commits (interpret operation e) w fits := by
  rw [interpret]
  cases e.family with
  | uniqueViolation | other => exact .fail _
  | outage => exact Triple.of_run_error rfl ((Idle.refl w).toLeaves.setLog _)

theorem session_commits {body : Act StoreError α}
    (hbody : ∀ v, Idle w v → Commits body v fits) : Commits (session operation body) w fits :=
  (Store.withConnection_commits hbody).handle fun e v _ => interpret_commits operation e v

theorem select_commits {answer : Tables → α} :
    Commits (session operation (select query answer)) w
      (fun a t => (a = answer w.tables ∧ query.texts.forM checkStorable = .ok ()) ∧ t = w.tables) := by
  refine session_commits fun v hv => ?_
  refine Triple.mono Store.select_triple ?_ fun _ _ h => h.toLeaves
  rintro a w' ⟨rfl, htexts, h⟩
  exact ⟨v.tables, ⟨⟨by rw [hv.tables_eq], htexts⟩, hv.tables_eq⟩, h.toLeaves⟩

theorem execute_commits {verb : String} (update : Tables → Instant → Tables × Nat) :
    Commits (session operation (execute query verb fun t now => some (update t now))) w
      (fun tag t => t = (update w.tables w.storeClock).1 ∧ query.texts.forM checkStorable = .ok ()
        ∧ tag = w.nextTag.getD (verb ++ " " ++ toString (update w.tables w.storeClock).2)) := by
  refine session_commits fun v hv => ?_
  refine Triple.mono Store.execute_triple ?_ fun _ _ h => h.toLeaves
  rintro tag w' ⟨t, count, hupdate, htexts, rfl, ht⟩
  rw [hv.tables_eq, hv.storeClock_eq, Option.some.injEq] at hupdate
  refine ⟨t, ⟨?_, htexts, ?_⟩, ht⟩
  · rw [hupdate]
  · rw [hupdate, hv.tag_eq]

theorem execute_done {verb : String} (update : Tables → Instant → Tables × Nat) :
    Commits (do
        let _ ← session operation (execute query verb fun t now => some (update t now))
        return ()) w
      (fun _ t => t = (update w.tables w.storeClock).1 ∧ query.texts.forM checkStorable = .ok ()) :=
  (execute_commits update).bind fun _ _ ⟨ht, htexts, _⟩ v _ =>
    ⟨(), v, rfl, ⟨ht, htexts⟩, .refl v⟩

end

-- -----------------------------------------------------------------------------
-- Operations
-- -----------------------------------------------------------------------------

theorem setChannel_absent {t : Tables} {owner name : String} {announce : Bool}
    (h : (t.setChannel owner name announce).2 = 0) : (t.setChannel owner name announce).1 = t := by
  simp only [Tables.setChannel, List.countP_eq_zero, decide_eq_true_eq] at h ⊢
  have hrows : (t.channels.map fun row =>
      if row.owner = owner ∧ row.name = name then { row with announce } else row) = t.channels := by
    refine (List.map_congr_left fun row hrow => ?_).trans (List.map_id _)
    rw [if_neg (h row hrow), id]
  rw [hrows]

namespace Registry

variable {w : World} {owner name value : RawText}

theorem channelsOf_commits :
    Commits (channelsOf owner) w (fun rows t => ∃ who, owner = .text who
      ∧ rows = (w.tables.channelsOf who).map identityOf ∧ t = w.tables) := by
  refine select_commits.bind ?_
  rintro _ _ ⟨⟨rfl, htexts⟩, ht⟩ v -
  rw [channelsQuery_texts] at htexts
  obtain ⟨who, rfl⟩ := Store.exists_text htexts (.head _)
  exact ⟨_, v, rfl, ⟨who, rfl, rfl, ht⟩, .refl v⟩

theorem find_commits {column : Column} :
    Commits (find column value) w (fun found t =>
      (∃ key row, value = .text key ∧ row? column key w.tables = some row
        ∧ found = (⟨row.owner, row.name, w.tables.announced row⟩, row.secret))
      ∧ t = w.tables) := by
  refine select_commits.read_bind fun _ v ⟨hfound, htexts⟩ hv => ?_
  rw [findQuery_texts] at htexts
  obtain ⟨key, rfl⟩ := Store.exists_text htexts (.head _)
  rw [hfound]
  cases hrow : row? column (RawText.text key).filled w.tables with
  | none => exact .fail _
  | some row =>
    exact Triple.pure ⟨w.tables, ⟨⟨key, row, rfl, hrow, by simp only [authorize_owner]⟩, rfl⟩,
      hv.tables_eq ▸ (Idle.refl v).toLeaves⟩

theorem thumbnail_commits :
    Commits (thumbnail name) w (fun picture t =>
      (w.tables.thumbNamed? name.filled).map (·.picture) = some picture ∧ t = w.tables) := by
  refine select_commits.read_bind fun _ v hfound hv => ?_
  rw [hfound.1]
  cases w.tables.thumbNamed? name.filled with
  | none => exact .fail _
  | some row => exact Triple.pure ⟨w.tables, ⟨rfl, rfl⟩, hv.tables_eq ▸ (Idle.refl v).toLeaves⟩

theorem datedThumbs_commits :
    Commits datedThumbs w (fun found t => found = (w.tables.announcedThumbs, w.storeClock)
      ∧ t = w.tables) := by
  refine (Store.logged_tells _ _).triple ?_
    (fun _ _ log ⟨t, hfits, h⟩ => ⟨t, hfits, h.setLog log⟩) fun _ _ log h => h.setLog log
  refine (Triple.mono_error Store.send_triple fun _ _ h => h.toLeaves).bind fun _ v ⟨_, hv⟩ => ?_
  refine Triple.bind (Q := fun rows w' => rows = w.tables.announcedThumbs ∧ v = w')
    (.look ⟨by rw [hv.tables_eq], rfl⟩) ?_
  rintro _ _ ⟨rfl, rfl⟩
  refine Triple.bind (Q := fun now w' => now = w.storeClock ∧ v = w')
    (.look ⟨hv.storeClock_eq, rfl⟩) ?_
  rintro _ _ ⟨rfl, rfl⟩
  rcases hcheck : checkTimes (w.tables.announcedThumbs.map (·.updated)) w.storeClock with e | u
  · refine Triple.of_run_error (e := .undated e) ?_ hv.toLeaves
    rw [Act.run_bind, checkDates_run, hcheck]
    rfl
  · refine Triple.of_run ?_ ⟨w.tables, ⟨rfl, rfl⟩, hv.toLeaves⟩
    rw [Act.run_bind, checkDates_run, hcheck]
    rfl

theorem liveness_commits :
    Commits liveness w (fun found t =>
      found = (w.tables.announcedThumbs.map fun row => (row.name, row.updated),
        if w.tables.announcedThumbs.isEmpty then none else some w.storeClock) ∧ t = w.tables) := by
  have hsession : Commits (session "list_liveness" datedThumbs) w (fun found t =>
      found = (w.tables.announcedThumbs, w.storeClock) ∧ t = w.tables) := by
    refine session_commits fun v hv => datedThumbs_commits.mono ?_
    rw [hv.tables_eq, hv.storeClock_eq]
    exact fun _ _ h => h
  exact hsession.bind fun _ _ ⟨hfound, ht⟩ v _ => ⟨_, v, rfl, ⟨by rw [hfound], ht⟩, .refl v⟩

theorem setOwnerAnnounce_commits {announce : Bool} :
    Commits (setOwnerAnnounce owner announce) w
      (fun _ t => ∃ who, owner = .text who ∧ t = w.tables.setUser who announce) := by
  refine (execute_done fun t _ => (t.setUser owner.filled announce, 1)).mono ?_
  rintro _ _ ⟨rfl, htexts⟩
  rw [setOwnerAnnounceQuery_texts] at htexts
  obtain ⟨who, rfl⟩ := Store.exists_text htexts (.head _)
  exact ⟨who, rfl, rfl⟩

theorem delete_commits :
    Commits (delete owner name) w
      (fun _ t => ∃ who n, owner = .text who ∧ name = .text n
        ∧ t = (w.tables.deleteChannel who n).1) := by
  refine (execute_done fun t _ => t.deleteChannel owner.filled name.filled).mono ?_
  rintro _ _ ⟨rfl, htexts⟩
  rw [deleteQuery_texts] at htexts
  obtain ⟨who, rfl⟩ := Store.exists_text htexts (.head _)
  obtain ⟨n, rfl⟩ := Store.exists_text htexts (.tail _ (.head _))
  exact ⟨who, n, rfl, rfl, rfl⟩

theorem putThumbnail_commits {picture : Bytes} :
    Commits (putThumbnail name picture) w
      (fun _ t => ∃ n, name = .text n ∧ t = w.tables.setThumb n picture w.storeClock) := by
  refine (execute_done fun t now => (t.setThumb name.filled picture now, 1)).mono ?_
  rintro _ _ ⟨rfl, htexts⟩
  rw [putThumbnailQuery_texts] at htexts
  obtain ⟨n, rfl⟩ := Store.exists_text htexts (.head _)
  exact ⟨n, rfl, rfl⟩

theorem storable_of_put {picture : Bytes} {v : World}
    (h : run (putThumbnail name picture) w = (.ok (), v)) : checkStorable name = .ok () := by
  obtain ⟨-, ⟨-, htexts⟩, -⟩ :=
    (execute_done fun t now => (t.setThumb name.filled picture now, 1)).ok h
  exact Store.storable_of_mem htexts (.head _)

def toldRows (w : World) (owner name : String) (announce : Bool) : Int :=
  rowsAffected (.str (.text (w.nextTag.getD
    ("UPDATE " ++ toString (w.tables.setChannel owner name announce).2))))

theorem toldRows_own {owner name : String} {announce : Bool} (hkeys : w.tables.Unique)
    (htag : w.nextTag = none) :
    toldRows w owner name announce = if w.tables.maps.owns owner name then 1 else 0 := by
  have hcount : (w.tables.setChannel owner name announce).2
      = if w.tables.maps.owns owner name then 1 else 0 :=
    Tables.countP_channel hkeys owner name
  rw [toldRows, htag, Option.getD_none, hcount]
  exact rowsAffected_update _

/-- A switch may be reported missing although it has been set, if that is what the tag says. -/
theorem setAnnounce_triple {announce : Bool} :
    Triple (setAnnounce owner name announce) w
      (fun _ w' => ∃ who n, owner = .text who ∧ name = .text n ∧ toldRows w who n announce ≠ 0
        ∧ Leaves w (w.tables.setChannel who n announce).1 w')
      (fun _ w' => Leaves w w.tables w' ∨ ∃ who n, owner = .text who ∧ name = .text n
        ∧ toldRows w who n announce = 0
        ∧ Leaves w (w.tables.setChannel who n announce).1 w') := by
  refine Triple.bind (Triple.mono_error (execute_commits fun t _ =>
    t.setChannel owner.filled name.filled announce) fun _ _ h => .inl h) ?_
  rintro tag v ⟨_, ⟨rfl, htexts, rfl⟩, hv⟩
  rw [setAnnounceQuery_texts] at htexts
  obtain ⟨who, rfl⟩ := Store.exists_text htexts (.head _)
  obtain ⟨n, rfl⟩ := Store.exists_text htexts (.tail _ (.head _))
  split
  · next hnone => exact Triple.fail (.inr ⟨who, n, rfl, rfl, hnone, hv⟩)
  · next hsome => exact Triple.pure ⟨who, n, rfl, rfl, hsome, hv⟩

/-- Where the store answers with its own tag, a switch that is reported missing is missing. -/
theorem setChannel_missing {owner name : String} {announce : Bool} (hkeys : w.tables.Unique)
    (htag : w.nextTag = none) (h : toldRows w owner name announce = 0) :
    (w.tables.setChannel owner name announce).1 = w.tables := by
  refine setChannel_absent ((Tables.countP_channel hkeys owner name).trans ?_)
  rw [toldRows_own hkeys htag] at h
  split at h
  · cases h
  next hnone => rw [if_neg hnone]

/-- A switch that is reported missing has not been set, provided that the tag tells the truth. -/
theorem setAnnounce_commits {announce : Bool} (hkeys : w.tables.Unique) (htag : TellsRows w) :
    Commits (setAnnounce owner name announce) w
      (fun _ t => ∃ who n, owner = .text who ∧ name = .text n ∧ toldRows w who n announce ≠ 0
        ∧ t = (w.tables.setChannel who n announce).1) := by
  refine Triple.mono setAnnounce_triple
    (fun _ _ ⟨who, n, howner, hname, htold, h⟩ => ⟨_, ⟨who, n, howner, hname, htold, rfl⟩, h⟩) ?_
  rintro e w' (h | ⟨who, n, rfl, rfl, hnone, h⟩)
  · exact h
  · cases hset : w.nextTag with
    | some tag =>
      rw [toldRows, hset] at hnone
      exact absurd hnone (htag tag hset)
    | none =>
      rw [setChannel_missing hkeys hset hnone] at h
      exact h

-- -----------------------------------------------------------------------------
-- Creating
-- -----------------------------------------------------------------------------

theorem insert_triple {secret : String} :
    Triple (insert owner name secret) w
      (fun _ w' => ∃ who n t, owner = .text who ∧ name = .text n
        ∧ (w.tables.addUser who).1.addChannel? who n secret = some t ∧ Leaves w t w')
      (fun _ w' => ∃ t, Leaves w t w') := by
  refine Triple.bind (Triple.mono_error Store.execute_triple
    fun _ _ h => ⟨_, h.toLeaves⟩) ?_
  rintro _ v ⟨t₁, count, hadd, -, -, hv⟩
  refine Triple.bind (Triple.mono_error Store.execute_triple
    fun _ _ h => ⟨_, hv.idle h⟩) ?_
  rintro _ v' ⟨t, count', hinsert, htexts, -, hv'⟩
  rw [addChannelQuery_texts] at htexts
  obtain ⟨who, rfl⟩ := Store.exists_text htexts (.head _)
  obtain ⟨n, rfl⟩ := Store.exists_text htexts (.tail _ (.head _))
  obtain ⟨t', ht', heq⟩ := Option.map_eq_some_iff.mp hinsert
  cases heq
  have hfirst : t₁ = (w.tables.addUser who).1 := (congrArg Prod.fst (Option.some.inj hadd)).symm
  rw [hv.tables_eq, hfirst] at ht'
  exact Triple.pure ⟨who, n, t, rfl, rfl, ht', hv.trans hv'⟩

theorem create_triple :
    Triple (create owner name) w
      (fun identity w' => ∃ who n t, owner = .text who ∧ name = .text n
        ∧ identity = ⟨who, n, secretAt w.random, none, true⟩
        ∧ (w.tables.addUser who).1.addChannel? who n (secretAt w.random) = some t
        ∧ Leaves (drawn w) t w')
      (fun _ w' => Leaves (drawn w) w.tables w') := by
  have hsession : Commits (session "create_channel" (Store.transaction
      (insert owner name (secretAt w.random)))) (drawn w) (fun _ t =>
        ∃ who n, owner = .text who ∧ name = .text n
          ∧ (w.tables.addUser who).1.addChannel? who n (secretAt w.random) = some t) := by
    refine session_commits fun v hv => Store.transaction_commits fun v' hv' => ?_
    refine Triple.mono insert_triple ?_ fun _ _ h => h
    rintro _ w' ⟨who, n, t, howner, hname, ht, hw'⟩
    rw [hv'.tables_eq, hv.tables_eq] at ht
    exact ⟨t, ⟨who, n, howner, hname, ht⟩, hw'⟩
  refine Triple.bind (Q := fun secret v => secret = secretAt w.random ∧ v = drawn w)
    (.of_run (newSecret_run w) ⟨rfl, rfl⟩) ?_
  rintro _ _ ⟨rfl, rfl⟩
  refine Triple.bind hsession ?_
  rintro _ v ⟨t, ⟨who, n, rfl, rfl, ht⟩, hv⟩
  exact Triple.of_run rfl ⟨who, n, t, rfl, rfl, rfl, ht,
    hv.setLog _⟩

theorem storable_of_create {identity : Identity} {v : World}
    (h : run (create owner name) w = (.ok identity, v)) : checkStorable name = .ok () := by
  have hinsert (secret : String) (u : World) : Triple (insert owner name secret) u
      (fun _ w' => ∃ t, checkStorable name = .ok () ∧ Leaves u t w')
      (fun _ w' => ∃ t, Leaves u t w') := by
    refine Triple.bind (Triple.mono_error Store.execute_triple fun _ _ h => ⟨_, h.toLeaves⟩) ?_
    rintro _ u' ⟨t, count, -, -, -, hu⟩
    refine Triple.bind (Triple.mono_error Store.execute_triple fun _ _ h => ⟨_, hu.idle h⟩) ?_
    rintro _ w' ⟨t', count', -, htexts, -, hw'⟩
    exact Triple.pure ⟨t', Store.storable_of_mem htexts (.tail _ (.head _)), hu.trans hw'⟩
  obtain ⟨secret, u, -, hrest⟩ := Act.bind_ok.mp h
  obtain ⟨_, u', hsession, -⟩ := Act.bind_ok.mp hrest
  have hcommits : Commits (session "create_channel" (Store.transaction (insert owner name secret)))
      u (fun _ _ => checkStorable name = .ok ()) :=
    session_commits fun _ _ => Store.transaction_commits fun _ _ => hinsert secret _
  obtain ⟨t, hname, -⟩ := hcommits.ok hsession
  exact hname

end Registry
end OnAir.Channel
