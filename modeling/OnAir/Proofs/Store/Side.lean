import OnAir.Proofs.Store.Statement
import OnAir.Proofs.World.Alike

/-!
# Statements side by side

Two worlds whose tables are related, and which are alike in whatever else a statement depends on. An
operation over a connection cannot tell the two apart if its statements do not. What the worlds may
differ in beyond their tables is left open; it must not show in what the store does around a
statement.
-/

namespace OnAir.Store

open Act (Alike Ambient Quiet)

-- -----------------------------------------------------------------------------
-- Tables
-- -----------------------------------------------------------------------------

def Reads {α : Type} (T : Tables → Tables → Prop) (query : Tables → α) : Prop :=
  ∀ ⦃t u⦄, T t u → query t = query u

/-- A change of related tables does nothing to either, or does the same to both as far as can be
told. -/
def Writes (T : Tables → Tables → Prop)
    (update : Tables → Instant → Option (Tables × Nat)) : Prop :=
  ∀ ⦃t u⦄ now, T t u →
    Option.Rel (fun a b => T a.1 b.1 ∧ a.2 = b.2) (update t now) (update u now)

/-- No change by an owner tells related tables apart, or drives them apart. -/
structure Steady (T : Tables → Tables → Prop) (owner : String) : Prop where
  addUser : Writes T fun t _ => some (t.addUser owner)
  addChannel : ∀ name secret, Writes T fun t _ => (t.addChannel? owner name secret).map (·, 1)
  setChannel : ∀ name announce, Writes T fun t _ => some (t.setChannel owner name announce)
  setUser : ∀ announce, Writes T fun t _ => some (t.setUser owner announce, 1)
  deleteChannel : ∀ name, Writes T fun t _ => some (t.deleteChannel owner name)

/-- No statement of an owner tells related tables apart, or drives them apart. -/
structure Blind (T : Tables → Tables → Prop) (owner : String) : Prop where
  channelsOf : Reads T (·.channelsOf owner)
  addUser : Writes T fun t _ => some (t.addUser owner)
  addChannel : ∀ name secret, Writes T fun t _ => (t.addChannel? owner name secret).map (·, 1)
  setChannel : ∀ name announce, Writes T fun t _ => some (t.setChannel owner name announce)
  setUser : ∀ announce, Writes T fun t _ => some (t.setUser owner announce, 1)
  deleteChannel : ∀ name, Writes T fun t _ => some (t.deleteChannel owner name)

/-- No statement about pictures tells related tables apart, or drives them apart. -/
structure Public (T : Tables → Tables → Prop) : Prop where
  announcedThumbs : Reads T (·.announcedThumbs)
  thumbNamed : ∀ name, Reads T (·.thumbNamed? name)
  setThumb : ∀ name picture, Writes T fun t now => some (t.setThumb name picture now, 1)

section
variable {T : Tables → Tables → Prop}

theorem Reads.eq {α : Type} (query : Tables → α) : Reads Eq query :=
  fun _ _ h => congrArg query h

theorem Writes.eq (update : Tables → Instant → Option (Tables × Nat)) : Writes Eq update := by
  rintro t _ now rfl
  cases update t now with
  | none => exact .none
  | some change => exact .some ⟨rfl, rfl⟩

theorem Writes.always {update : Tables → Instant → Tables × Nat}
    (h : ∀ ⦃t u⦄ now, T t u →
      T (update t now).1 (update u now).1 ∧ (update t now).2 = (update u now).2) :
    Writes T fun t now => some (update t now) :=
  fun _ _ now ht => .some (h now ht)

theorem Blind.eq (owner : String) : Blind Eq owner where
  channelsOf := .eq _
  addUser := .eq _
  addChannel _ _ := .eq _
  setChannel _ _ := .eq _
  setUser _ := .eq _
  deleteChannel _ := .eq _

theorem Blind.steady {owner : String} (h : Blind T owner) : Steady T owner :=
  { h with }

theorem Public.eq : Public Eq where
  announcedThumbs := .eq _
  thumbNamed _ := .eq _
  setThumb _ _ := .eq _

end

-- -----------------------------------------------------------------------------
-- Worlds
-- -----------------------------------------------------------------------------

/-- The relation is blind to what the store does around a statement: a connection is taken and handed
back, a fault strikes, and a change is answered alike in both worlds, whose stores have one clock. Of
the tables it knows no more than how they are related. -/
structure Side (T : Tables → Tables → Prop) (R : World → World → Prop) : Prop extends
    Ambient R where
  tables : ∀ ⦃w v⦄, R w v → T w.tables v.tables
  storeClock : ∀ ⦃w v⦄, R w v → w.storeClock = v.storeClock
  live : ∀ ⦃w v⦄, R w v → w.live = v.live
  setTables : ∀ ⦃w v t u⦄, R w v → T t u → R { w with tables := t } { v with tables := u }
  pass : ∀ ⦃event⦄, event ≠ .release → Alike R (pass event)
  takeTag : ∀ own, Alike R (takeTag own)
  acquire : Alike R acquire
  release : ∀ {ε : Type} (conn : Connection), Alike R (release conn : Act ε Unit)

section
variable {T : Tables → Tables → Prop} {R : World → World → Prop} {α β : Type} {query : Query}
  {body : Act StoreError α}

theorem record_map (f : α → β) (query : Query) (elapsed : Double) (result : Except StoreError α) :
    query.record elapsed (result.map f) = query.record elapsed result := by
  cases result <;> rfl

theorem map_logged (f : α → β) (query : Query) (body : Act StoreError α) :
    f <$> logged query body = logged query (f <$> body) := by
  refine Act.ext fun w => ?_
  simp only [logged, Act.run_map, Act.run_bind, Act.run_attempt, Act.run_look, Act.run_enter,
    Act.run_ofExcept, record_map]

theorem logged_alike (hR : Quiet R) (hbody : Alike R body) : Alike R (logged query body) :=
  hbody.attempt.bind fun _ => Alike.bind (.look hR.runtime) fun _ =>
    (hR.enter _).bind fun _ => .ofExcept _

theorem requirePool_alike (hcurrent : ∀ ⦃w v⦄, R w v → w.current = v.current) :
    Alike R requirePool := by
  refine Alike.bind (.look hcurrent) fun current => ?_
  cases current with
  | none => exact .fail _
  | some number => exact .pure number

variable (hR : Side T R)
include hR

theorem send_alike : Alike R (send query) :=
  (hR.pass (by decide)).bind fun _ => Alike.bind (.look hR.runtime) fun _ => .ofExcept _

theorem send_bind_alike {f : Act StoreError α}
    (hf : query.texts.forM checkStorable = .ok () → Alike R f) :
    Alike R (send query >>= fun _ => f) := by
  refine (send_alike hR).bind_of fun _ _ _ hsend => hf ?_
  obtain ⟨_, _, _, hsend⟩ := Act.bind_ok.mp hsend
  obtain ⟨_, _, _, hcheck⟩ := Act.bind_ok.mp hsend
  exact texts_of_check (Act.ofExcept_ok.mp hcheck).1

theorem select_alike {answer : Tables → α}
    (hanswer : query.texts.forM checkStorable = .ok () → Reads T answer) :
    Alike R (select query answer) :=
  logged_alike hR.toAmbient.quiet (send_bind_alike hR fun htexts =>
    .look fun _ _ h => hanswer htexts (hR.tables h))

theorem execute_alike {verb : String} {update : Tables → Instant → Option (Tables × Nat)}
    (hupdate : query.texts.forM checkStorable = .ok () → Writes T update) :
    Alike R (execute query verb update) := by
  refine logged_alike hR.toAmbient.quiet (send_bind_alike hR fun htexts w v h => ?_)
  have hrel := hupdate htexts w.storeClock (hR.tables h)
  simp only [Act.run_bind, Act.run_look, ← hR.storeClock h]
  generalize update w.tables w.storeClock = change, update v.tables w.storeClock = change' at hrel
  cases hrel with
  | none => exact ⟨rfl, h⟩
  | some hsame =>
    obtain ⟨hchange, hcount⟩ := hsame
    simp only [Act.run_bind, Act.run_change, hcount]
    exact hR.takeTag _ (hR.setTables h hchange)

theorem transaction_alike (hbody : Alike R body) : Alike R (transaction body) := by
  have hquiet := hR.toAmbient.quiet
  refine (logged_alike hquiet (hR.pass (by decide))).bind fun _ w v h => ?_
  have hwhole : Alike R (do
      let result ← orRollBack body
      bracket "COMMIT;" (pass .commit)
      return result) :=
    (hbody.handle fun _ => (logged_alike hquiet (.pure ())).bind fun _ => .fail _).bind fun _ =>
      (logged_alike hquiet (hR.pass (by decide))).bind fun _ => .pure _
  obtain ⟨result, w', v', hw, hv, h'⟩ := hwhole.run_eq h
  simp only [Act.run_bind, Act.run_look, Act.run_handle] at hw hv ⊢
  rw [hw, hv]
  cases result with
  | ok a => exact ⟨rfl, h'⟩
  | error e => exact ⟨rfl, hR.setTables h' (hR.tables h)⟩

theorem withConnection_alike (hbody : Alike R body) :
    Alike R (withConnection body) :=
  hR.acquire.bind fun conn => hbody.attempt.bind fun _ =>
    (hR.release conn).bind fun _ => .ofExcept _

end
end OnAir.Store
