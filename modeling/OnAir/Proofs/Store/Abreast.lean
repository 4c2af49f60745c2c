import OnAir.Proofs.Store.Side
import OnAir.Proofs.World.Alike

/-!
# Stores abreast

Worlds are abreast if they are the same in all that an operation over a connection depends on, but
for their tables, which are related. The connections taken so far may be others, and so may the pools
and the log: an operation takes the next connection, whichever it is, and does not show it.
-/

namespace OnAir.Store

open Act (Alike Paired)

/-- Worlds with related tables, which an operation over a connection can tell apart by nothing
else. -/
structure Abreast (T : Tables → Tables → Prop) (w v : World) : Prop where
  tables : T w.tables v.tables
  storeClock : w.storeClock = v.storeClock
  random : w.random = v.random
  faults : w.faults = v.faults
  current : w.current = v.current
  nextTag : w.nextTag = v.nextTag
  runtime : w.runtime = v.runtime

namespace Abreast

variable {T : Tables → Tables → Prop} {ε α β : Type}

-- -----------------------------------------------------------------------------
-- Connections
-- -----------------------------------------------------------------------------

theorem pass (event : Event) : Alike (Abreast T) (pass event) := by
  intro w v h
  simp only [Store.pass, Act.run_of, h.faults]
  cases (nextFault event v.faults).1 with
  | none => exact ⟨rfl, { h with faults := rfl }⟩
  | some e => exact ⟨rfl, { h with faults := rfl }⟩

theorem note (level : Log.Level) (message : String) :
    Alike (Abreast T) (Act.note level message : Act ε Unit) :=
  .change fun _ _ h => { h with }

theorem bytes (count : Nat) : Alike (Abreast T) (Act.draw count : Act ε Bytes) := by
  intro w v h
  simp only [Act.draw, Act.run_of, h.random]
  exact ⟨trivial, { h with random := rfl }⟩

theorem requirePool : Alike (Abreast T) requirePool :=
  requirePool_alike fun _ _ h => h.current

theorem acquire : Paired (Abreast T) (fun _ _ => True) acquire acquire := by
  refine (Paired.of_alike requirePool).bind fun _ _ _ => ?_
  refine (Paired.of_alike (pass _)).bind fun _ _ _ w v h => ?_
  exact ⟨.ok trivial, { h with }⟩

theorem handBack (conn conn' : Connection) :
    Paired (Abreast T) (fun _ _ => True) (handBack conn) (handBack conn') := by
  refine (Paired.of_alike requirePool).bind fun _ _ _ => ?_
  refine (Paired.change fun _ _ h => { h with }).bind fun _ _ _ => ?_
  exact (Paired.of_alike (pass .release)).mono fun _ _ _ => trivial

theorem release (conn conn' : Connection) :
    Paired (Abreast T) (fun _ _ => True) (release conn : Act ε Unit) (release conn') := by
  refine (handBack conn conn').attempt.bind fun x y h => ?_
  cases h with
  | ok => exact .pure trivial
  | error e => exact (Paired.of_alike (note _ _)).mono fun _ _ _ => trivial

theorem withConnection {Q : α → β → Prop} {body : Act StoreError α} {other : Act StoreError β}
    (h : Paired (Abreast T) Q body other) :
    Paired (Abreast T) Q (withConnection body) (withConnection other) :=
  acquire.bind fun conn conn' _ => h.attempt.bind fun _ _ hresult =>
    (release conn conn').bind fun _ _ _ => .ofExcept hresult

-- -----------------------------------------------------------------------------
-- Statements
-- -----------------------------------------------------------------------------

/-- Of related tables a change does nothing to either, or it leaves related tables and touches
numbers of rows that fit together. -/
def Changes (T : Tables → Tables → Prop) (C : Nat → Nat → Prop)
    (update : Tables → Instant → Option (Tables × Nat)) : Prop :=
  ∀ ⦃t u⦄ now, T t u →
    Option.Rel (fun a b => T a.1 b.1 ∧ C a.2 b.2) (update t now) (update u now)

theorem takeTag {Q : String → String → Prop} {own own' : String}
    (h : ∀ tag : Option String, Q (tag.getD own) (tag.getD own')) :
    Paired (Abreast T) Q (takeTag own) (takeTag own') := by
  intro w v hworlds
  refine ⟨.ok ?_, { hworlds with nextTag := rfl }⟩
  rw [← hworlds.nextTag]
  exact h w.nextTag

/-- The line of a statement may tell one result from another, but not one world from another. -/
theorem logged {Q : α → β → Prop} {query : Query} {body : Act StoreError α}
    {other : Act StoreError β} (h : Paired (Abreast T) Q body other) :
    Paired (Abreast T) Q (Store.logged query body) (Store.logged query other) := by
  refine h.attempt.bind fun result result' hresult => ?_
  refine Paired.bind (.look fun _ _ _ => trivial) fun runtime runtime' (_ : True) => ?_
  exact (Paired.change fun _ _ hworlds => { hworlds with }).bind fun _ _ _ => .ofExcept hresult

theorem send (query : Query) :
    Paired (Abreast T) (fun _ _ => query.texts.forM checkStorable = .ok ()) (send query)
      (send query) := by
  refine (Paired.of_alike (pass _)).bind fun _ _ _ => ?_
  refine Paired.bind (.look fun _ _ hworlds => hworlds.runtime) fun runtime _ heq => ?_
  subst heq
  refine .ofExcept ?_
  cases htexts : query.texts.forM checkStorable with
  | ok u =>
    rw [check_ok htexts]
    exact .ok rfl
  | error e =>
    rw [check_error htexts]
    exact .error _

theorem execute {C : Nat → Nat → Prop} {Q : String → String → Prop} {query : Query}
    {verb : String} {update : Tables → Instant → Option (Tables × Nat)}
    (h : query.texts.forM checkStorable = .ok () → Changes T C update)
    (hC : ∀ (tag : Option String) m n, C m n → Q (tag.getD (verb ++ " " ++ toString m))
      (tag.getD (verb ++ " " ++ toString n))) :
    Paired (Abreast T) Q (execute query verb update) (execute query verb update) := by
  refine logged ((send query).bind fun _ _ htexts => ?_)
  -- whether the change can be made is seen in the tables; none of the two can, or both
  have hlook : Paired (ε := StoreError) (Abreast T)
      (Option.Rel fun a b => T a.1 b.1 ∧ C a.2 b.2)
      (Act.look fun w => update w.tables w.storeClock)
      (Act.look fun w => update w.tables w.storeClock) :=
    .look fun w v hworlds => hworlds.storeClock ▸ h htexts w.storeClock hworlds.tables
  refine hlook.bind fun change change' hchange => ?_
  cases hchange with
  | none => exact .fail _
  | some hchange =>
    obtain ⟨htables, hcount⟩ := hchange
    refine (Paired.change fun _ _ hworlds => { hworlds with tables := htables }).bind
      fun _ _ _ => ?_
    exact takeTag fun tag => hC tag _ _ hcount

theorem execute_unread {query : Query} {verb : String}
    {update : Tables → Instant → Option (Tables × Nat)}
    (h : query.texts.forM checkStorable = .ok () → Changes T (fun _ _ => True) update) :
    Paired (Abreast T) (fun _ _ => True) (Store.execute query verb update)
      (Store.execute query verb update) :=
  execute h fun _ _ _ _ => trivial

theorem execute_read {query : Query} {verb : String}
    {update : Tables → Instant → Option (Tables × Nat)}
    (h : query.texts.forM checkStorable = .ok () → Changes T Eq update) :
    Paired (Abreast T) Eq (Store.execute query verb update) (Store.execute query verb update) :=
  execute h fun tag _ _ hcount =>
    congrArg (fun n : Nat => tag.getD (verb ++ " " ++ toString n)) hcount

theorem transaction {Q : α → β → Prop} {body : Act StoreError α} {other : Act StoreError β}
    (h : Paired (Abreast T) Q body other) :
    Paired (Abreast T) Q (transaction body) (transaction other) := by
  refine (logged (Paired.of_alike (pass _))).bind fun _ _ _ => ?_
  refine Paired.bind (Paired.look fun _ _ hworlds => hworlds.tables) fun before before' ht => ?_
  refine Paired.handle (Paired.bind (h.handle fun e => ?_) fun a b hfit => ?_) fun e => ?_
  · exact (logged (.pure trivial)).bind fun _ _ (_ : True) => .fail e
  · exact (logged (Paired.of_alike (pass _))).bind fun _ _ _ => .pure hfit
  -- both tables are restored, and the ones before were related
  · exact (Paired.change fun _ _ hworlds => { hworlds with tables := ht }).bind fun _ _ _ =>
      .fail e

end Abreast
end OnAir.Store
