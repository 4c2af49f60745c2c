import OnAir.App.Serve
import OnAir.Proofs.Store.Statement
import OnAir.Proofs.World.Triple

/-!
# Protected responses

No endpoint sets a header of its own but to say what its response is. So the headers that protect a
response, added on its way out, are there once and with their values: on results, redirects and
every failure that was foreseen. What nobody foresaw is answered past the point where they are
added.
-/

namespace OnAir.App

open Act (Triple run)
open Http (Endpoint Request Response)

variable {app : App} {request : Request} {w : World}

-- -----------------------------------------------------------------------------
-- Headers
-- -----------------------------------------------------------------------------

def headersNamed (name : String) (r : Response) : List (String × String) :=
  r.headers.filter fun header => header.1 = name

/-- A response with each of the protecting headers, once and with its value. -/
def Protected (r : Response) : Prop :=
  ∀ header ∈ Http.protection, headersNamed header.1 r = [header]

def Unprotected (r : Response) : Prop :=
  ∀ header ∈ Http.protection, headersNamed header.1 r = []

instance (r : Response) : Decidable (Protected r) :=
  inferInstanceAs (Decidable (∀ header ∈ Http.protection, headersNamed header.1 r = [header]))

instance (r : Response) : Decidable (Unprotected r) :=
  inferInstanceAs (Decidable (∀ header ∈ Http.protection, headersNamed header.1 r = []))

def Plain (r : Response) : Prop :=
  ∀ header ∈ r.headers, header.1 ∈ ["content-type", "location", "allow"]

theorem Plain.unprotected {r : Response} (h : Plain r) : Unprotected r := by
  intro header hheader
  refine List.filter_eq_nil_iff.mpr fun own hown => ?_
  have hnames : ∀ header ∈ Http.protection,
      header.1 ∉ ["content-type", "location", "allow"] := by
    decide
  rw [decide_eq_true_eq]
  intro heq
  exact hnames header hheader (heq ▸ h own hown)

theorem Plain.guarded {r : Response} (h : Plain r) : Protected r.guarded := by
  intro header hheader
  have hown : r.headers.filter (fun own => own.1 = header.1) = [] := h.unprotected header hheader
  have hadded : ∀ header ∈ Http.protection,
      Http.protection.filter (fun own => own.1 = header.1) = [header] := by
    decide
  rw [headersNamed, Response.guarded, List.filter_append, hown, hadded header hheader,
    List.nil_append]

theorem plain_of (status : Nat) (content : Http.Content) : Plain (.of status content) := by
  cases content <;> simp [Plain, Response.of, Http.Content.header]

theorem plain_redirect (status : Nat) (location : String) : Plain (.redirect status location) := by
  simp [Plain, Response.redirect]

theorem plain_answerError (e : RequestError) : Plain (app.answerError request e) := by
  cases e <;> exact plain_of _ _

-- -----------------------------------------------------------------------------
-- Endpoints
-- -----------------------------------------------------------------------------

def SendsPlain (act : Act RequestError Response) : Prop :=
  ∀ w, Triple act w (fun r _ => Plain r) (fun _ _ => True)

namespace SendsPlain

theorem pure {r : Response} (h : Plain r) : SendsPlain (pure r) :=
  fun _ => .pure h

theorem fail (e : RequestError) : SendsPlain (Act.fail e) :=
  fun _ => .fail trivial

theorem bind {α : Type} {act : Act RequestError α} {f : α → Act RequestError Response}
    (hf : ∀ a, SendsPlain (f a)) : SendsPlain (act >>= f) :=
  fun _ => Triple.bind (Triple.of_world (P := fun _ => True) trivial) fun a w' _ => hf a w'

theorem document {α : Type} {act : Act RequestError α} {status : Nat} (value : α → Json) :
    SendsPlain (act >>= fun a => Pure.pure (.document status (value a))) :=
  bind fun _ => pure (plain_of _ _)

theorem withCookies (app : App) (changes : List Seal.CookieChange) {r : Response} (h : Plain r) :
    SendsPlain (app.withCookies changes r) := by
  refine bind fun now => ?_
  split
  · exact pure h
  · exact fail _

theorem submitted {α β : Type} {request : Request} {gate : Act RequestError β}
    {reader : Validation.Fields → Validation.Checked α} {act : β → α → Act RequestError Response}
    (hact : ∀ who record, SendsPlain (act who record)) :
    SendsPlain (App.submitted request gate reader act) :=
  bind fun _ => bind fun who => bind fun record => hact who record

theorem handle (app : App) (endpoint : Endpoint) (request : Request) :
    SendsPlain (app.handle endpoint request) := by
  cases endpoint with
  | initiate => exact bind fun _ => withCookies app _ (plain_redirect _ _)
  | callback =>
    refine bind fun result => ?_
    split
    · exact withCookies app _ (plain_redirect _ _)
    · exact bind fun _ => withCookies app _ (plain_of _ _)
    · exact fail _
  | logout => exact withCookies app _ (plain_of _ _)
  | user =>
    refine bind fun identity => ?_
    dsimp only
    split
    · exact bind fun _ => pure (plain_of _ _)
    · exact pure (plain_of _ _)
  | listChannels => exact bind fun _ => document _
  | createChannel => exact submitted fun _ _ => document _
  | setAnnounce name => exact submitted fun _ _ => document _
  | deleteChannel name => exact bind fun _ => document _
  | setOwnerAnnounce => exact submitted fun _ _ => document _
  | directory => exact document _
  | thumbnail name => exact bind fun _ => pure (plain_of _ _)
  | admitPublisher => exact submitted fun _ _ => document _
  | admitChallenger => exact submitted fun _ _ => document _
  | putThumbnail name => exact bind fun _ => document _
  | health => exact pure (plain_of _ _)

theorem respond (app : App) (request : Request) : SendsPlain (app.respond request) := by
  unfold App.respond
  split
  · exact handle app _ request
  · exact pure (by simp [Plain, Response.detail, Response.document, Response.of,
      Response.withHeader, Http.Content.header])
  · exact pure (plain_redirect _ _)
  · exact pure (plain_of _ _)

end SendsPlain

-- -----------------------------------------------------------------------------
-- Responses
-- -----------------------------------------------------------------------------

/-- Whatever is requested of whatever application, and whatever the store, the provider and the
faults are: unless the request ends in something nobody foresaw, its response carries each
protecting header once and with its value. Otherwise it is the one response to all that nobody
foresaw, which carries none of them. -/
theorem protected_unless_unforeseen (app : App) (request : Request) (w : World) :
    let response := (app.serve request w).1
    let result := (run (app.respond request) (w.noting [request.arrival])).1
    ((∀ u, result ≠ .error (.unforeseen u)) → Protected response)
      ∧ ∀ u, result = .error (.unforeseen u) →
        response = app.answerError request (.unforeseen u) ∧ Unprotected response := by
  have hsends := SendsPlain.respond app request (w.noting [request.arrival])
  rcases hrun : run (app.respond request) (w.noting [request.arrival]) with ⟨e | response, w'⟩ <;>
    rw [serve_of_run hrun]
  · have hplain : Plain (app.answerError request e) := plain_answerError e
    cases e with
    | unforeseen u =>
      refine ⟨fun hne => absurd rfl (hne u), ?_⟩
      rintro _ ⟨⟩
      exact ⟨rfl, hplain.unprotected⟩
    | failure | invalid | unreadable => exact ⟨fun _ => hplain.guarded, nofun⟩
  · exact ⟨fun _ => (hsends.ok hrun).guarded, nofun⟩

/-- Something that nobody foresaw happens in the store while the directory is read. -/
theorem unforeseen_unprotected : ∃ (app : App) (request : Request) (w : World),
    request.path = "/channels.json" ∧ (app.serve request w).1.status = 500
      ∧ (app.serve request w).1.headers = [("content-type", "application/json")]
      ∧ ¬Protected (app.serve request w).1
      ∧ Protected (app.serve request { w with faults := [] }).1 := by
  let settings : Settings := ⟨false, "", 0, 1, "", "", "", "", "", "", [], "", false, "state",
    "login", "", "", "", "", 1, .ofInt 5, "key"⟩
  let flow : Login.Flow := ⟨some ⟨"secret"⟩, ⟨"", "", "", "", "", "", []⟩, "state", "login", ""⟩
  let app : App := ⟨settings, "", .make "" 1 (.ofInt 5), flow⟩
  let request : Request := ⟨"", "GET", "/channels.json", [], [], [], none, "", "", ""⟩
  let w : World := { Store.holding .empty with
    faults := [⟨.statement, 1, ⟨.other, "RuntimeError", "boom"⟩⟩] }
  refine ⟨app, request, w, rfl, ?_, ?_, ?_, ?_⟩
  · decide +kernel
  · decide +kernel
  · decide +kernel
  · decide +kernel

end OnAir.App
