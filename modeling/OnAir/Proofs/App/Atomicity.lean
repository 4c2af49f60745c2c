import OnAir.Proofs.App.Calls

/-!
# Failures change nothing

Faults may strike the store at any of its events. A request that is answered with an error, or a
call that ends with one, has left users, channels and pictures as they were, the more so a creation
that got through its first statement; and a fault that strikes when a connection is released is not
even noticed. One thing is asked of the store: it does not answer a change of rows with a tag that
denies it.
-/

namespace OnAir

open Act (Triple run)
open Channel (TellsRows)
open Http (Request Response)
open Store (Beside Fault Tables)

-- -----------------------------------------------------------------------------
-- Requests that fail
-- -----------------------------------------------------------------------------

namespace App

variable {app : App} {w : World}

/-- A request fails before its call, or because its call has failed; after it nothing fails. -/
theorem Asks.settles {result : Except RequestError Response} {w' : World}
    (h : Asks app w (result, w')) (hkeys : w.tables.Unique) (htag : TellsRows w)
    (hfails : ∀ response, result = .ok response → 400 ≤ response.status) :
    w'.tables = w.tables := by
  cases h with
  | nothing => rfl
  | answered hv hrun hstatus =>
    have hresponse := hfails _ rfl
    rw [hstatus] at hresponse
    exact absurd hresponse (by decide)
  | @refused call e v v' hv hrun =>
    obtain ⟨log, sent, rfl⟩ := hv
    have hends := call.act_ends (w := { w with log, sent }) app.settings.rtmpBase hkeys htag
    exact (Triple.error hends hrun).tables_eq

theorem serve_settles (app : App) (request : Request) (hkeys : w.tables.Unique)
    (htag : TellsRows w) (hstatus : 400 ≤ (app.serve request w).1.status) :
    (app.serve request w).2.tables = w.tables := by
  have hasks := app.respond_asks request (w.noting [request.arrival])
  rcases hrun : run (app.respond request) (w.noting [request.arrival]) with ⟨result, w'⟩
  rw [hrun] at hasks
  rw [serve_of_run hrun] at hstatus ⊢
  refine hasks.settles hkeys htag ?_
  rintro response rfl
  exact hstatus

end App

-- -----------------------------------------------------------------------------
-- Requests and calls
-- -----------------------------------------------------------------------------

def World.withoutReleaseFaults (w : World) : World :=
  { w with faults := w.faults.filter Fault.matters }

theorem Store.Beside.withoutReleaseFaults (w : World) : Beside Eq w w.withoutReleaseFaults where
  tables := rfl
  clock := rfl
  storeClock := rfl
  runtime := rfl
  random := rfl
  faults := by simp [World.withoutReleaseFaults]
  pools := rfl
  current := rfl
  out := rfl
  acquired := rfl
  nextTag := rfl
  provider := rfl
  live := rfl
  sent := rfl

/-- Whatever faults are to come: a request that is answered with the status of an error has left the
tables as they were, and so has a call that ends with an error. Without the faults that strike when
a connection is released, every answer and all tables after it are the same. -/
theorem failures_change_nothing (app : App) (publishDir : String) {w : World}
    (hkeys : w.tables.Unique) (htag : TellsRows w) :
    (∀ request, 400 ≤ (app.serve request w).1.status →
        (app.serve request w).2.tables = w.tables)
      ∧ (∀ (call : Service.Call) e, (run (call.act publishDir) w).1 = .error e →
        (run (call.act publishDir) w).2.tables = w.tables)
      ∧ (∀ request, (app.serve request w).1 = (app.serve request w.withoutReleaseFaults).1
        ∧ (app.serve request w).2.tables = (app.serve request w.withoutReleaseFaults).2.tables)
      ∧ ∀ call : Service.Call,
        (run (call.act publishDir) w).1 = (run (call.act publishDir) w.withoutReleaseFaults).1
        ∧ (run (call.act publishDir) w).2.tables
          = (run (call.act publishDir) w.withoutReleaseFaults).2.tables := by
  refine ⟨fun request => app.serve_settles request hkeys htag, ?_, ?_, ?_⟩
  · intro call e herror
    have hends := call.act_ends publishDir hkeys htag
    rcases hrun : run (call.act publishDir) w with ⟨e | answer, w'⟩
    · exact (Triple.error hends hrun).tables_eq
    · rw [hrun] at herror
      cases herror
  · intro request
    obtain ⟨hanswer, hafter⟩ := app.serve_beside request (.withoutReleaseFaults w)
    exact ⟨hanswer, hafter.tables⟩
  · intro call
    obtain ⟨hanswer, hafter⟩ := call.act_alike publishDir (.withoutReleaseFaults w)
    exact ⟨hanswer, hafter.tables⟩

/-- A creation that fails at its second statement leaves no owner behind, and a picture is taken
although its connection cannot be handed back. -/
theorem failures_change_nothing_faulty : ∃ (app : App) (request : Request) (w : World),
    let create := (Service.Call.owner "ann" (.create "one")).act ""
    w.tables.Unique ∧ TellsRows w
      ∧ (run create w).1 = .error (.service (.failure .store))
      ∧ (run create w).2.tables = w.tables
      ∧ (app.serve request w.withoutReleaseFaults).1.status = 200
      ∧ (app.serve request w).1 = (app.serve request w.withoutReleaseFaults).1 := by
  let settings : Settings := ⟨false, "", 0, 1, "", "", "", "", "", "", [], "", false, "state",
    "login", "", "", "", "", 1, .ofInt 5, "key"⟩
  let app : App := .make settings "" []
  let request : Request :=
    ⟨"", "PUT", "/ingest/thumbs/one", [], [("x-api-key", "key")], [1, 2], none, "", "", ""⟩
  let w : World := { Store.holding .empty with
    faults := [⟨.statement, 2, ⟨.outage, "", ""⟩⟩, ⟨.release, 1, ⟨.other, "", ""⟩⟩] }
  have hkeys : w.tables.Unique := Tables.unique_empty
  have htag : TellsRows w := fun _ h => nomatch h
  have hcreate : (run ((Service.Call.owner "ann" (.create "one")).act "") w).1
      = .error (.service (.failure .store)) := by decide +kernel
  obtain ⟨-, hcalls, hrequests, -⟩ := failures_change_nothing app "" hkeys htag
  refine ⟨app, request, w, hkeys, htag, hcreate, hcalls _ _ hcreate, ?_, (hrequests request).1⟩
  decide +kernel

end OnAir
