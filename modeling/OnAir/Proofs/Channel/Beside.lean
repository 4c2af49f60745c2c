import OnAir.Proofs.Channel.Operations
import OnAir.Proofs.Store.Side

/-!
# Two registries side by side

An operation of the registry ends alike over stores that its statements cannot tell apart, and keeps
them so. Each lemma names the statements of its operation; where all tables are equal to those
beside them, none of them makes a difference.
-/

namespace OnAir.Channel

open Act (Alike)
open Store (Public Query Reads Side Steady StoreError Tables Writes checkStorable execute select)

-- -----------------------------------------------------------------------------
-- Results of sessions
-- -----------------------------------------------------------------------------

section
variable {α β : Type} {operation : String}

theorem map_withConnection (f : α → β) (body : Act StoreError α) :
    f <$> Store.withConnection body = Store.withConnection (f <$> body) := by
  refine Act.ext fun w => ?_
  simp only [Store.withConnection, Act.run_map, Act.run_bind, Act.run_attempt, Act.run_ofExcept]
  rcases Act.run Store.acquire w with ⟨e | conn, w'⟩
  · rfl
  · simp only
    rcases Act.run (Store.release conn : Act StoreError Unit) (Act.run body w').2 with
      ⟨e | u, w''⟩ <;> rfl

theorem map_interpret (f : α → β) (operation : String) (e : StoreError) :
    f <$> (interpret operation e : Act RegistryError α) = interpret operation e := by
  refine Act.ext fun w => ?_
  rw [Act.run_map, interpret, interpret]
  cases e.family <;> rfl

/-- What is made of a result may as well be made of it before the connection is handed back. -/
theorem map_session (f : α → β) (body : Act StoreError α) :
    f <$> session operation body = session operation (f <$> body) := by
  simp only [session, Act.map_handle, map_withConnection, map_interpret]

theorem map_session_select (operation : String) (query : Query) (f : α → β)
    (answer : Tables → α) :
    f <$> session operation (select query answer)
      = session operation (select query fun t => f (answer t)) := by
  rw [map_session, select, Store.map_logged, map_bind]
  rfl

end

section
variable {T : Tables → Tables → Prop} {R : World → World → Prop} (hR : Side T R)
  {operation : String} {α : Type} {query : Query}
include hR

-- -----------------------------------------------------------------------------
-- Sessions
-- -----------------------------------------------------------------------------

theorem interpret_alike (operation : String) (e : StoreError) :
    Alike R (interpret operation e : Act RegistryError α) := by
  rw [interpret]
  cases e.family with
  | uniqueViolation | other => exact .fail _
  | outage => exact (hR.note _ _).bind fun _ => .fail _

theorem session_alike {body : Act StoreError α} (hbody : Alike R body) :
    Alike R (session operation body) :=
  (Store.withConnection_alike hR hbody).handle (interpret_alike hR operation)

theorem session_select_alike {answer : Tables → α}
    (hanswer : query.texts.forM checkStorable = .ok () → Reads T answer) :
    Alike R (session operation (select query answer)) :=
  session_alike hR (Store.select_alike hR hanswer)

theorem session_execute_alike {verb : String} {update : Tables → Instant → Option (Tables × Nat)}
    (hupdate : query.texts.forM checkStorable = .ok () → Writes T update) :
    Alike R (session operation (execute query verb update)) :=
  session_alike hR (Store.execute_alike hR hupdate)

namespace Registry

variable {owner name value : RawText}

-- -----------------------------------------------------------------------------
-- Reading
-- -----------------------------------------------------------------------------

theorem channelsOf_alike (h : ∀ who, owner = .text who → Reads T (·.channelsOf who)) :
    Alike R (channelsOf owner) := by
  refine (session_select_alike hR fun htexts => ?_).bind fun _ => .pure _
  rw [channelsQuery_texts] at htexts
  obtain ⟨who, rfl⟩ := Store.exists_text htexts (.head _)
  exact h who rfl

theorem map_find_alike {column : Column} (f : Authorization × String → α)
    (h : Reads T fun t => (row? column value.filled t).map fun row =>
      f (⟨row.owner, row.name, t.announced row⟩, row.secret)) :
    Alike R (f <$> find column value) := by
  let onFound (found : Option α) : Act RegistryError α :=
    found.elim (Act.fail (.notFound value.filled)) pure
  have hfind : f <$> find column value
      = session "find_channel" (select (findQuery column value) fun t =>
          (row? column value.filled t).map fun row =>
            f (⟨row.owner, row.name, t.announced row⟩, row.secret)) >>= onFound := by
    have hmap := map_session_select "find_channel" (findQuery column value) (Option.map f)
      fun t => (row? column value.filled t).map fun row =>
        (authorize row (t.userNamed? row.owner), row.secret)
    simp only [Option.map_map, Function.comp_def, authorize_owner] at hmap
    simp only [find, authorize_owner]
    rw [← hmap, map_bind, bind_map_left]
    refine congrArg _ (funext fun found => ?_)
    cases found <;> rfl
  rw [hfind]
  refine (session_select_alike hR fun _ => h).bind fun found => ?_
  cases found with
  | none => exact .fail _
  | some result => exact .pure result

theorem find_alike {column : Column}
    (h : Reads T fun t => (row? column value.filled t).map fun row =>
      ((⟨row.owner, row.name, t.announced row⟩ : Authorization), row.secret)) :
    Alike R (find column value) := by
  rw [← id_map (find column value)]
  exact map_find_alike hR id h

theorem thumbnail_alike (h : Public T) : Alike R (thumbnail name) := by
  refine (session_select_alike hR fun _ => h.thumbNamed _).bind fun found => ?_
  cases found with
  | none => exact .fail _
  | some row => exact .pure row.picture

theorem liveness_alike (h : Public T) : Alike R liveness := by
  refine Alike.bind (session_alike hR ?_) fun _ => .pure _
  refine Store.logged_alike hR.toAmbient.quiet ((Store.send_alike hR).bind fun _ => ?_)
  refine Alike.bind (.look fun _ _ hw => h.announcedThumbs (hR.tables hw)) fun rows => ?_
  refine Alike.bind (.look hR.storeClock) fun now => ?_
  exact (Alike.forM _ (fun _ => .ofExcept _) rows).bind fun _ => .pure _

-- -----------------------------------------------------------------------------
-- Changing
-- -----------------------------------------------------------------------------

theorem putThumbnail_alike (h : Public T) {picture : Bytes} :
    Alike R (putThumbnail name picture) :=
  (session_execute_alike hR fun _ => h.setThumb _ _).bind fun _ => .pure _

variable (h : ∀ who, owner = .text who → Steady T who)
include h

theorem create_alike : Alike R (create owner name) := by
  refine ((hR.bytes 24).map _).bind fun secret => ?_
  have hinsert : Alike R (insert owner name secret) := by
    refine (Store.execute_alike hR fun htexts => ?_).bind fun _ =>
      (Store.execute_alike hR fun htexts => ?_).bind fun _ => .pure _
    · rw [addUserQuery_texts] at htexts
      obtain ⟨who, rfl⟩ := Store.exists_text htexts (.head _)
      exact (h who rfl).addUser
    · rw [addChannelQuery_texts] at htexts
      obtain ⟨who, rfl⟩ := Store.exists_text htexts (.head _)
      exact (h who rfl).addChannel name.filled secret
  exact (session_alike hR (Store.transaction_alike hR hinsert)).bind fun _ =>
    (hR.note _ _).bind fun _ => .pure _

theorem setAnnounce_alike {announce : Bool} :
    Alike R (setAnnounce owner name announce) := by
  refine (session_execute_alike hR fun htexts => ?_).bind fun tag => ?_
  · rw [setAnnounceQuery_texts] at htexts
    obtain ⟨who, rfl⟩ := Store.exists_text htexts (.head _)
    exact (h who rfl).setChannel name.filled announce
  · split
    · exact .fail _
    · exact .pure _

theorem setOwnerAnnounce_alike {announce : Bool} :
    Alike R (setOwnerAnnounce owner announce) := by
  refine (session_execute_alike hR fun htexts => ?_).bind fun _ => .pure _
  rw [setOwnerAnnounceQuery_texts] at htexts
  obtain ⟨who, rfl⟩ := Store.exists_text htexts (.head _)
  exact (h who rfl).setUser announce

theorem delete_alike : Alike R (delete owner name) := by
  refine (session_execute_alike hR fun htexts => ?_).bind fun _ => .pure _
  rw [deleteQuery_texts] at htexts
  obtain ⟨who, rfl⟩ := Store.exists_text htexts (.head _)
  exact (h who rfl).deleteChannel name.filled

end Registry
end
end OnAir.Channel
