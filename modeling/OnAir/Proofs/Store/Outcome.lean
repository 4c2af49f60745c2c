import OnAir.Proofs.Store.Statement
import OnAir.Proofs.World.Triple

/-!
# Statements of a store that may fail anywhere

Whatever faults are to come, and at whatever event they strike: a statement has its effect or ends
with an error and has none, a transaction commits or has not happened, and what is done over a
connection stays done whether or not the connection can be handed back.
-/

namespace OnAir.Store

open Act (Triple run)

-- -----------------------------------------------------------------------------
-- Traces
-- -----------------------------------------------------------------------------

/-- The second world has these tables. Connections, log lines and faults may differ from those of
the first one, and the tag set aside for the next change may have been used up. -/
structure Leaves (w : World) (tables : Tables) (w' : World) : Prop where
  tables_eq : w'.tables = tables
  clock_eq : w'.clock = w.clock
  storeClock_eq : w'.storeClock = w.storeClock
  random_eq : w'.random = w.random
  current_eq : w'.current = w.current
  runtime_eq : w'.runtime = w.runtime
  tag : w'.nextTag = w.nextTag ∨ w'.nextTag = none

/-- Nothing has happened to the tables yet, and the tag is still set aside. -/
structure Idle (w w' : World) : Prop extends Leaves w w.tables w' where
  tag_eq : w'.nextTag = w.nextTag

/-- An operation commits: it ends with a result that fits the tables it leaves, or it ends with an
error and leaves the tables as they were. -/
def Commits {ε α : Type} (act : Act ε α) (w : World) (fits : α → Tables → Prop) : Prop :=
  Triple act w (fun a w' => ∃ t, fits a t ∧ Leaves w t w') (fun _ w' => Leaves w w.tables w')

section
variable {w v w' : World} {t t' : Tables}

theorem Idle.refl (w : World) : Idle w w :=
  ⟨⟨rfl, rfl, rfl, rfl, rfl, rfl, .inl rfl⟩, rfl⟩

theorem Leaves.setLog (h : Leaves w t w') (log : List Log.Entry) : Leaves w t { w' with log } :=
  { h with }

theorem Idle.setLog (h : Idle w w') (log : List Log.Entry) : Idle w { w' with log } :=
  { h with }

theorem Leaves.trans (h : Leaves w t v) (h' : Leaves v t' w') : Leaves w t' w' where
  tables_eq := h'.tables_eq
  clock_eq := h'.clock_eq.trans h.clock_eq
  storeClock_eq := h'.storeClock_eq.trans h.storeClock_eq
  random_eq := h'.random_eq.trans h.random_eq
  current_eq := h'.current_eq.trans h.current_eq
  runtime_eq := h'.runtime_eq.trans h.runtime_eq
  tag := h'.tag.elim (fun heq => h.tag.imp heq.trans heq.trans) .inr

theorem Leaves.idle (h : Leaves w t v) (h' : Idle v w') : Leaves w t w' :=
  h.tables_eq ▸ h.trans h'.toLeaves

theorem Idle.trans (h : Idle w v) (h' : Idle v w') : Idle w w' :=
  ⟨h.toLeaves.idle h', h'.tag_eq.trans h.tag_eq⟩

theorem Idle.leaves (h : Idle w v) (h' : Leaves v t w') : Leaves w t w' :=
  h.toLeaves.trans h'

theorem Idle.unused (h : Idle w v) (h' : Leaves v v.tables w') : Leaves w w.tables w' :=
  h.tables_eq ▸ h.leaves h'

theorem Leaves.restore (h : Leaves w t w') : Leaves w w.tables { w' with tables := w.tables } :=
  { h with tables_eq := rfl }

-- -----------------------------------------------------------------------------
-- Commits
-- -----------------------------------------------------------------------------

section
variable {ε ε' α β : Type} {act : Act ε α} {fits : α → Tables → Prop}

theorem Commits.ok {a : α} (h : Commits act w fits) (hrun : run act w = (.ok a, w')) :
    ∃ t, fits a t ∧ Leaves w t w' :=
  Triple.ok h hrun

theorem Commits.error {e : ε} (h : Commits act w fits) (hrun : run act w = (.error e, w')) :
    Leaves w w.tables w' :=
  Triple.error (E := fun _ w' => Leaves w w.tables w') h hrun

theorem Commits.mono {fits' : α → Tables → Prop} (h : Commits act w fits)
    (hfits : ∀ a t, fits a t → fits' a t) : Commits act w fits' :=
  Triple.mono h (fun a _ ⟨t, hfit, ht⟩ => ⟨t, hfits a t hfit, ht⟩) fun _ _ h => h

theorem Commits.bind {f : α → Act ε β} {fits' : β → Tables → Prop} (h : Commits act w fits)
    (hf : ∀ a t, fits a t → ∀ v, Leaves w t v →
      ∃ b v', run (f a) v = (.ok b, v') ∧ fits' b t ∧ Idle v v') :
    Commits (act >>= f) w fits' := by
  refine Triple.bind h fun a v ⟨t, hfit, hv⟩ => ?_
  obtain ⟨b, v', hrun, hfit', hv'⟩ := hf a t hfit v hv
  exact Triple.of_run hrun ⟨t, hfit', hv.idle hv'⟩

theorem Commits.read_bind {f : α → Act ε β} {P : α → Prop} {fits' : β → Tables → Prop}
    (h : Commits act w fun a t => P a ∧ t = w.tables)
    (hf : ∀ a v, P a → Leaves w w.tables v → Commits (f a) v fits') :
    Commits (act >>= f) w fits' := by
  refine Triple.bind h ?_
  rintro a v ⟨_, ⟨ha, rfl⟩, hv⟩
  refine Triple.mono (hf a v ha hv) ?_ ?_
  · rintro b w' ⟨t, hfit, ht⟩
    exact ⟨t, hfit, hv.trans ht⟩
  · intro e w' hw'
    exact hv.tables_eq ▸ hv.trans hw'

theorem Commits.map (f : α → β) {fits' : β → Tables → Prop} (h : Commits act w fits)
    (hfits : ∀ a t, fits a t → fits' (f a) t) : Commits (f <$> act) w fits' := by
  rw [map_eq_pure_bind]
  exact h.bind fun a t hfit v _ => ⟨_, v, rfl, hfits a t hfit, .refl v⟩

theorem Commits.mapError (f : ε → ε') (h : Commits act w fits) :
    Commits (Act.mapError f act) w fits :=
  Triple.mapError h fun _ _ h => h

theorem Commits.handle {onError : ε → Act ε' α} (h : Commits act w fits)
    (herror : ∀ e v, Leaves w w.tables v → Commits (onError e) v fits) :
    Commits (Act.handle act onError) w fits := by
  refine Triple.handle h fun e v hv => ?_
  refine Triple.mono (herror e v hv) ?_ ?_
  · rintro a w' ⟨t, hfit, ht⟩
    exact ⟨t, hfit, hv.trans ht⟩
  · intro e' w' hw'
    exact hv.tables_eq ▸ hv.trans hw'

theorem Commits.fail (e : ε) : Commits (Act.fail e : Act ε α) w fits :=
  Triple.fail (Idle.refl w).toLeaves

end

-- -----------------------------------------------------------------------------
-- Events and statements
-- -----------------------------------------------------------------------------

theorem pass_idle (event : Event) : Idle w (run (pass event) w).2 := by
  simp only [pass, Act.run_of]
  rcases nextFault event w.faults with ⟨_ | e, faults⟩ <;>
    exact ⟨⟨rfl, rfl, rfl, rfl, rfl, rfl, .inl rfl⟩, rfl⟩

theorem pass_triple (event : Event) :
    Triple (pass event) w (fun _ w' => Idle w w') (fun _ w' => Idle w w') :=
  Triple.of_world (pass_idle event)

variable {α : Type} {query : Query}

/-- What holds at the end of an operation does so for one that only logs more, unless it speaks of
the log. -/
theorem Tells.triple {ε : Type} {act act' : Act ε α} {Q : α → World → Prop} {E : ε → World → Prop}
    (hact : Tells act' act) (h : Triple act w Q E) (hQ : ∀ a w' log, Q a w' → Q a { w' with log })
    (hE : ∀ e w' log, E e w' → E e { w' with log }) : Triple act' w Q E := by
  obtain ⟨log, hrun'⟩ := hact w
  rcases hrun : run act w with ⟨e | a, w'⟩ <;> rw [hrun] at hrun'
  · exact .of_run_error hrun' (hE e w' log (h.error hrun))
  · exact .of_run hrun' (hQ a w' log (h.ok hrun))

theorem send_triple : Triple (send query) w
    (fun _ w' => query.texts.forM checkStorable = .ok () ∧ Idle w w') (fun _ w' => Idle w w') := by
  refine (pass_triple .statement).bind fun _ v hv => ?_
  refine Triple.bind (Q := fun _ w' => Idle w w') (.look hv) fun runtime v hv => ?_
  exact .ofExcept (fun _ hok => ⟨texts_of_check hok, hv⟩) fun _ _ => hv

theorem select_triple {answer : Tables → α} : Triple (select query answer) w
    (fun a w' => a = answer w.tables ∧ query.texts.forM checkStorable = .ok () ∧ Idle w w')
    (fun _ w' => Idle w w') := by
  refine (logged_tells _ _).triple ?_ (fun _ _ log ⟨ha, htexts, h⟩ => ⟨ha, htexts, h.setLog log⟩)
    fun _ _ log h => h.setLog log
  exact send_triple.bind fun _ v ⟨htexts, hv⟩ => .look ⟨by rw [hv.tables_eq], htexts, hv⟩

theorem execute_triple {verb : String} {update : Tables → Instant → Option (Tables × Nat)} :
    Triple (execute query verb update) w
      (fun tag w' => ∃ t count, update w.tables w.storeClock = some (t, count)
        ∧ query.texts.forM checkStorable = .ok ()
        ∧ tag = w.nextTag.getD (verb ++ " " ++ toString count) ∧ Leaves w t w')
      (fun _ w' => Idle w w') := by
  refine (logged_tells _ _).triple ?_ ?_ fun _ _ log h => h.setLog log
  · refine send_triple.bind fun _ v ⟨htexts, hv⟩ => ?_
    refine Triple.bind (Q := fun changed v' => changed = update w.tables w.storeClock ∧ Idle w v')
      (.look ⟨by rw [hv.tables_eq, hv.storeClock_eq], hv⟩) fun changed v' ⟨hchanged, hv'⟩ => ?_
    cases changed with
    | none => exact .fail hv'
    | some change =>
      obtain ⟨t, count⟩ := change
      refine Triple.of_run rfl ⟨t, count, hchanged.symm, htexts, by rw [← hv'.tag_eq], ?_⟩
      exact { hv'.toLeaves with tables_eq := rfl, tag := .inr rfl }
  · rintro tag w' log ⟨t, count, hupdate, htexts, htag, h⟩
    exact ⟨t, count, hupdate, htexts, htag, h.setLog log⟩

-- -----------------------------------------------------------------------------
-- Transactions and connections
-- -----------------------------------------------------------------------------

variable {fits : α → Tables → Prop}

theorem bracket_triple {body : Act StoreError Unit} (text : String)
    (hbody : Triple body w (fun _ w' => Idle w w') (fun _ w' => Idle w w')) :
    Triple (bracket text body) w (fun _ w' => Idle w w') (fun _ w' => Idle w w') :=
  (logged_tells _ _).triple hbody (fun _ _ log h => h.setLog log) fun _ _ log h => h.setLog log

theorem transaction_commits {body : Act StoreError α}
    (hbody : ∀ v, Idle w v → Triple body v (fun a w' => ∃ t, fits a t ∧ Leaves v t w')
      (fun _ w' => ∃ t, Leaves v t w')) : Commits (transaction body) w fits := by
  refine Triple.bind (Triple.mono_error (bracket_triple _ (pass_triple .begin))
    fun _ _ h => h.toLeaves) fun _ v hv => ?_
  refine Triple.bind (Q := fun before v' => before = w.tables ∧ v = v')
    (.look ⟨hv.tables_eq, rfl⟩) ?_
  rintro _ _ ⟨rfl, rfl⟩
  refine Triple.handle (E := fun _ w' => ∃ t, Leaves w t w') ?_
    fun e w' ⟨t, ht⟩ => Triple.of_run_error rfl ht.restore
  have hrolled : Triple (orRollBack body) v (fun a w' => ∃ t, fits a t ∧ Leaves w t w')
      (fun _ w' => ∃ t, Leaves w t w') := by
    refine (orRollBack_tells body).triple (Triple.mono (hbody _ hv)
      (fun _ _ ⟨t, hfit, ht⟩ => ⟨t, hfit, hv.leaves ht⟩) fun _ _ ⟨t, ht⟩ => ⟨t, hv.leaves ht⟩) ?_ ?_
    · rintro a w' log ⟨t, hfit, ht⟩
      exact ⟨t, hfit, ht.setLog log⟩
    · rintro e w' log ⟨t, ht⟩
      exact ⟨t, ht.setLog log⟩
  refine Triple.bind hrolled fun a v' ⟨t, hfit, hv'⟩ => ?_
  refine Triple.bind (Triple.mono_error (bracket_triple _ (pass_triple .commit))
    fun _ _ h => ⟨t, hv'.idle h⟩) fun _ w' hw' => Triple.pure ⟨t, hfit, hv'.idle hw'⟩

theorem requirePool_triple : Triple requirePool w (fun _ w' => w = w') (fun _ w' => w = w') := by
  refine Triple.bind (Q := fun _ w' => w = w') (.look rfl) ?_
  rintro (_ | number) _ rfl
  · exact .fail rfl
  · exact .pure rfl

theorem acquire_triple : Triple acquire w (fun _ w' => Idle w w') (fun _ w' => Idle w w') := by
  refine Triple.bind (Triple.mono_error requirePool_triple ?_) ?_
  · rintro _ _ rfl
    exact .refl _
  · rintro home _ rfl
    refine (pass_triple .acquire).bind fun _ v hv => ?_
    refine Triple.of_run (a := ⟨v.acquired, home⟩) rfl ?_
    exact { hv with }

theorem handBack_triple (conn : Connection) :
    Triple (handBack conn) w (fun _ w' => Idle w w') (fun _ w' => Idle w w') := by
  refine Triple.bind (Triple.mono_error requirePool_triple ?_) ?_
  · rintro _ _ rfl
    exact .refl _
  · rintro number _ rfl
    refine Triple.bind (Q := fun _ w' => Idle w w') (Triple.of_run rfl ?_) fun _ v hv => ?_
    · exact ⟨⟨rfl, rfl, rfl, rfl, rfl, rfl, .inl rfl⟩, rfl⟩
    · exact Triple.mono (pass_triple .release) (fun _ _ h => hv.trans h) fun _ _ h => hv.trans h

theorem release_idle {ε : Type} (conn : Connection) :
    ∃ w', run (release conn : Act ε Unit) w = (.ok (), w') ∧ Idle w w' := by
  have hback := handBack_triple (w := w) conn
  simp only [release, Act.run_bind, Act.run_attempt]
  rcases hrun : run (handBack conn) w with ⟨e | _, v⟩
  · exact ⟨_, rfl, (hback.error hrun).setLog _⟩
  · exact ⟨v, rfl, hback.ok hrun⟩

/-- What is committed over a connection is committed, whatever becomes of the connection. -/
theorem withConnection_commits {body : Act StoreError α}
    (hbody : ∀ v, Idle w v → Commits body v fits) : Commits (withConnection body) w fits := by
  refine Triple.bind (Triple.mono_error acquire_triple fun _ _ h => h.toLeaves)
    fun conn v hv => ?_
  rcases hrun : run body v with ⟨e | a, v'⟩ <;>
    obtain ⟨w', hrelease, hw'⟩ := release_idle (ε := StoreError) (w := v') conn
  · have hend := (hv.unused ((hbody v hv).error hrun)).idle hw'
    refine Triple.of_run_error (e := e) ?_ hend
    simp only [Act.run_bind, Act.run_attempt, hrun, hrelease, Act.run_ofExcept]
  · obtain ⟨t, hfit, ht⟩ := (hbody v hv).ok hrun
    have hend := (hv.leaves ht).idle hw'
    refine Triple.of_run (a := a) ?_ ⟨t, hfit, hend⟩
    simp only [Act.run_bind, Act.run_attempt, hrun, hrelease, Act.run_ofExcept]

end
end OnAir.Store
