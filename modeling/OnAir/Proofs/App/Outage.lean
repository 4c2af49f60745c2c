import OnAir.Proofs.App.Admission
import OnAir.Proofs.App.Atomicity
import OnAir.Proofs.App.Calls
import OnAir.Proofs.Service.Outage

/-!
# Outages end alike

Wherever the store is out of order, and whatever it raises, a call ends with the one failure there is
for it and a request with the one response. Connections are handed back in any case; and when a
connection is released nothing can go wrong that a call or a request would notice.
-/

namespace OnAir

open Act (Triple run)
open Http (Request)
open Store (Fault Outage Returned StoreError Struck Unnoticed)

namespace App

variable {app : App} {w v : World} {e : StoreError}

theorem Quietly.unnoticed (h : Quietly w v) : Unnoticed w v := by
  obtain ⟨log, sent, rfl⟩ := h
  exact ⟨⟨rfl, rfl, rfl, rfl⟩, rfl, rfl⟩

theorem Asks.returned {ending : Except RequestError Http.Response × World}
    (h : Asks app w ending) : Returned w ending.2 := by
  cases h with
  | nothing => exact Store.SamePools.returned ⟨rfl, rfl, rfl, rfl⟩
  | @answered call answer v v' response hv hrun =>
    have hreports := call.act_reports (w := v) app.settings.rtmpBase
    exact hv.unnoticed.toSamePools.then_returned (Triple.ok hreports hrun).1
  | @refused call error v v' hv hrun =>
    have hreports := call.act_reports (w := v) app.settings.rtmpBase
    exact hv.unnoticed.toSamePools.then_returned (Triple.error hreports hrun).1

/-- A fault strikes in the call that a request makes, since nothing else reaches the store. -/
theorem Asks.outage {ending : Except RequestError Http.Response × World}
    (h : Asks app w ending) (hfamily : e.family = .outage) (hstruck : Struck e w ending.2) :
    ending.1 = .error (.failure .store) := by
  cases h with
  | nothing => exact absurd ⟨.refl _, rfl⟩ hstruck.not_unstruck
  | @answered call answer v v' response hv hrun =>
    have hreports := call.act_reports (w := v) app.settings.rtmpBase
    have houtage : Outage call.texts v v' := hv.unnoticed.outage_iff.mpr (.fault hstruck hfamily)
    exact absurd houtage (Triple.ok hreports hrun).2
  | @refused call error v v' hv hrun =>
    have hreports := call.act_reports (w := v) app.settings.rtmpBase
    have houtage : Outage call.texts v v' := hv.unnoticed.outage_iff.mpr (.fault hstruck hfamily)
    obtain rfl : error = .service (.failure .store) :=
      (Triple.error hreports hrun).2.mpr houtage
    rfl

theorem serve_returned (app : App) (request : Request) (w : World) :
    Returned w (app.serve request w).2 := by
  have hreturned := (app.respond_asks request (w.noting [request.arrival])).returned
  exact ⟨hreturned.current, hreturned.out, hreturned.pools⟩

theorem serve_outage (app : App) (request : Request) (hfamily : e.family = .outage)
    (hstruck : Struck e w (app.serve request w).2) :
    (app.serve request w).1 = (app.failed request .store).guarded := by
  have houtage := (app.respond_asks request (w.noting [request.arrival])).outage hfamily hstruck
  exact congrArg (app.answer request) houtage

end App

/-- A call ends with the one failure there is for outages exactly if the store was out of order, and
a request that such a fault strikes is answered with that failure, whatever the fault has raised and
wherever it has struck. Every connection is handed back; and without the faults that strike when a
connection is released, calls end and requests are answered in the same way. -/
theorem outages_end_alike (app : App) (publishDir : String) (w : World) :
    (∀ call : Service.Call,
        ((run (call.act publishDir) w).1 = .error (.service (.failure .store))
          ↔ Outage call.texts w (run (call.act publishDir) w).2)
        ∧ Returned w (run (call.act publishDir) w).2
        ∧ (run (call.act publishDir) w).1 = (run (call.act publishDir) w.withoutReleaseFaults).1)
      ∧ (∀ request : Request,
        (∀ e, e.family = .outage → Struck e w (app.serve request w).2 →
          (app.serve request w).1 = (app.failed request .store).guarded)
        ∧ Returned w (app.serve request w).2
        ∧ (app.serve request w).1 = (app.serve request w.withoutReleaseFaults).1)
      ∧ Failure.store.code = "E_STORE_FAILURE" ∧ Failure.store.message = "internal error"
      ∧ Failure.store.status = 500 := by
  refine ⟨fun call => ?_, fun request => ⟨?_, app.serve_returned request w, ?_⟩, rfl, rfl, rfl⟩
  · have hreports := call.act_reports (w := w) publishDir
    exact ⟨hreports.result_iff, hreports.returned,
      (call.act_alike publishDir (.withoutReleaseFaults w)).1⟩
  · intro e hfamily hstruck
    exact app.serve_outage request hfamily hstruck
  · exact (app.serve_beside request (.withoutReleaseFaults w)).1

/-- A creation fails in the same way at each of its events, and so does the answer to a new picture
at both of its; the connection cannot even be released properly. -/
theorem outages_end_alike_anywhere :
    ∃ (app : App) (request : Request) (world : Fault → World),
      let create := (Service.Call.owner "ann" (.create "one")).act ""
      let closed : StoreError := ⟨.outage, "InterfaceError", "connection is closed"⟩
      let late : StoreError := ⟨.outage, "TimeoutError", ""⟩
      (∀ fault ∈ [⟨.acquire, 1, late⟩, ⟨.begin, 1, closed⟩, ⟨.statement, 1, late⟩,
          ⟨.statement, 2, closed⟩, ⟨.commit, 1, late⟩],
        Struck fault.error (world fault) (run create (world fault)).2
          ∧ (run create (world fault)).1 = .error (.service (.failure .store))
          ∧ (run create (world fault)).2.out.Perm [])
        ∧ ∀ fault ∈ [⟨.acquire, 1, closed⟩, ⟨.statement, 1, late⟩],
          Struck fault.error (world fault) (app.serve request (world fault)).2
            ∧ (app.serve request (world fault)).1 = (app.failed request .store).guarded := by
  let settings : Settings := ⟨false, "", 0, 1, "", "", "", "", "", "", [], "", false, "state",
    "login", "", "", "", "", 1, .ofInt 5, "key"⟩
  let app : App := .make settings "" []
  let request : Request :=
    ⟨"", "PUT", "/ingest/thumbs/one", [], [("x-api-key", "key")], [1, 2], none, "", "", ""⟩
  let world (fault : Fault) : World :=
    { Store.holding .empty with faults := [fault, ⟨.release, 1, ⟨.other, "", ""⟩⟩] }
  refine ⟨app, request, world, ?_, ?_⟩
  · intro fault hfault
    have hfamily : fault.error.family = .outage := by
      revert fault
      decide +kernel
    have hstruck : Struck fault.error (world fault)
        (run ((Service.Call.owner "ann" (.create "one")).act "") (world fault)).2 := by
      revert fault
      decide +kernel
    obtain ⟨hcalls, -⟩ := outages_end_alike app "" (world fault)
    obtain ⟨hresult, hreturned, -⟩ := hcalls (.owner "ann" (.create "one"))
    exact ⟨hstruck, hresult.mpr (.fault hstruck hfamily), hreturned.out⟩
  · intro fault hfault
    have hfamily : fault.error.family = .outage := by
      revert fault
      decide +kernel
    have hstruck : Struck fault.error (world fault) (app.serve request (world fault)).2 := by
      revert fault
      decide +kernel
    obtain ⟨-, hrequests, -⟩ := outages_end_alike app "" (world fault)
    exact ⟨hstruck, (hrequests request).1 _ hfamily hstruck⟩

end OnAir
