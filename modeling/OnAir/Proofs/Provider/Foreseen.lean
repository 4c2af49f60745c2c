import Mathlib.Data.List.TakeWhile
import OnAir.Proofs.Json.Scan
import OnAir.Proofs.World.Triple
import OnAir.Provider.Client

/-!
# Answers that are foreseen

A request to the provider ends with a result or with a refusal, if its endpoint can be reached and
nothing unforeseen comes back: a text outside ASCII where a header is written or read, a redirect to
an address that cannot be followed, a document that nests too deep, or an excuse that its character
set does not read as text. Nothing else can surprise the client, whatever the status and the body.
-/

namespace OnAir.Provider

open Act (Triple)

def Error.isRefusal : Error → Bool
  | .refused _ => true
  | _ => false

-- -----------------------------------------------------------------------------
-- What may come back
-- -----------------------------------------------------------------------------

def Ascii (codes : List Nat) : Prop :=
  ∀ code ∈ codes, code < 128

/-- An address a client can turn to. -/
def Reachable (url : String) : Prop :=
  ∃ endpoint, Url.Endpoint.read url.toList = .ok endpoint
    ∧ endpoint.rooted.checkHost = .ok () ∧ endpoint.rooted.scheme ≠ []

/-- An address that can be followed, or that is no address at all: its host can be read, or it has
none and begins at the root. -/
def Followable (location : String) : Prop :=
  ∀ target, Url.Endpoint.read location.toList = .ok target →
    if target.scheme ≠ [] ∧ target.host = [] then target.path = [] ∨ target.path.head? = some '/'
    else target.checkHost = .ok ()

def Reply.content? : Reply → Option Response
  | .response r => r.decoded.toOption
  | .fault _ => none

/-- A reply that can be received: a fault of the transport, or a response with headers in ASCII and
with a target that can be followed if it is a redirect. -/
def Reply.Receivable : Reply → Prop
  | .fault f => f.foreign = false
  | .response r => (∀ header ∈ r.headers, Ascii (header.1.toList.map Char.toNat)
      ∧ Ascii (header.2.toList.map Char.toNat))
    ∧ ∀ location, r.location? = some location → Followable location

def Shallow (content : Response) : Prop :=
  ∀ container, Json.readBytes content.body ≠ .error (.tooDeep container)

/-- A reply with nothing unforeseen in it: it can be received, a document in it can be looked
into, and an excuse for a missing token can be read. -/
structure Reply.Orderly (stage : Stage) (reply : Reply) : Prop where
  receivable : reply.Receivable
  content : ∀ content, reply.content? = some content → content.status = 200 → Shallow content
  excuse : stage = .token → ∀ content, reply.content? = some content → content.status ≠ 200 →
    ∃ text, content.text = .ok text

/-- A client whose endpoints can be reached and answer with nothing unforeseen. -/
structure Client.Served (client : Client) (script : Script) : Prop where
  tokenUrl : Reachable client.tokenUrl
  userUrl : Reachable client.userUrl
  tokenReply : script.token.Receivable
  userReply : script.user.Receivable
  tokenContent : ∀ content, script.token.content? = some content → content.status = 200 →
    Shallow content
  userContent : ∀ content, script.user.content? = some content → content.status = 200 →
    Shallow content
  excuse : ∀ content, script.token.content? = some content → content.status ≠ 200 →
    ∃ text, content.text = .ok text
  token : ∀ content token, script.token.content? = some content → readToken content = .ok token →
    Ascii token.displayed.codes

-- -----------------------------------------------------------------------------
-- Results
-- -----------------------------------------------------------------------------

/-- A result or a refusal. -/
def Foreseen {α : Type} (result : Except Error α) : Prop :=
  ∀ e, result = .error e → e.isRefusal = true

section
variable {α β : Type} {stage : Stage} {r content : Response}

theorem Foreseen.ok (a : α) : Foreseen (.ok a) :=
  fun _ h => nomatch h

theorem Foreseen.refused (refusal : Refusal) :
    Foreseen (.error (.refused refusal) : Except Error α) := by
  rintro _ ⟨⟩
  rfl

theorem Foreseen.bind {result : Except Error α} {f : α → Except Error β} (h : Foreseen result)
    (hf : ∀ a, result = .ok a → Foreseen (f a)) : Foreseen (result >>= f) := by
  cases result with
  | error e => exact fun _ he => h _ (by cases he; rfl)
  | ok a => exact hf a rfl

theorem Foreseen.mapError {ε : Type} {result : Except ε α} {f : ε → Refusal} :
    Foreseen (result.mapError fun e => .refused (f e)) := by
  cases result with
  | error e => exact .refused _
  | ok a => exact .ok a

theorem headerText_ok {codes : List Nat} (h : Ascii codes) :
    headerText codes = .ok (String.ofList (codes.map Char.ofNat)) := by
  have htake : codes.takeWhile (· < 128) = codes :=
    List.takeWhile_eq_self_iff.mpr fun code hcode => decide_eq_true (h code hcode)
  simp only [headerText, htake, List.drop_length]

theorem bearerAuthorization_ok {token : Json} (h : Ascii token.displayed.codes) :
    ∃ bearer, bearerAuthorization token = .ok bearer := by
  have hcodes : (RawText.text "Bearer " ++ token.displayed).codes
      = "Bearer ".toList.map Char.toNat ++ token.displayed.codes := RawText.codes_ofCodes _
  refine ⟨_, headerText_ok ?_⟩
  have hword : ∀ code ∈ "Bearer ".toList.map Char.toNat, code < 128 := by decide
  rw [hcodes]
  exact fun code hcode => (List.mem_append.mp hcode).elim (hword code) (h code)

theorem checkHeaders_ok (h : ∀ header ∈ r.headers, Ascii (header.1.toList.map Char.toNat)
    ∧ Ascii (header.2.toList.map Char.toNat)) : r.checkHeaders = .ok () := by
  rw [Response.checkHeaders]
  generalize r.headers = headers at h
  induction headers with
  | nil => rfl
  | cons header rest ih =>
    obtain ⟨hname, hvalue⟩ := h header List.mem_cons_self
    have hrest := ih fun header hmem => h header (List.mem_cons_of_mem _ hmem)
    simp only [List.forM_eq_forM, List.forM_cons, headerText_ok hname, headerText_ok hvalue] at hrest ⊢
    exact hrest

theorem readBody_foreseen (h : Shallow content) : Foreseen (readBody stage content) := by
  rw [readBody]
  split
  · exact .ok _
  · next container hdeep => exact absurd hdeep (h container)
  · exact .refused _

theorem readToken_foreseen (h : content.status = 200 → Shallow content)
    (hexcuse : content.status ≠ 200 → ∃ text, content.text = .ok text) :
    Foreseen (readToken content) := by
  rw [readToken]
  split
  next hstatus =>
    obtain ⟨text, htext⟩ := hexcuse hstatus
    rw [htext]
    exact .refused _
  next hstatus =>
    refine Foreseen.bind (readBody_foreseen (h (not_not.mp hstatus))) fun body _ => ?_
    split
    · split
      · exact .ok _
      · exact .refused _
    · exact .refused _

theorem readProfile_foreseen (h : content.status = 200 → Shallow content) :
    Foreseen (readProfile content) := by
  rw [readProfile]
  split
  next => exact .refused _
  next hstatus =>
    refine Foreseen.bind (readBody_foreseen (h (not_not.mp hstatus))) fun body _ => ?_
    split
    · exact .refused _
    split
    · exact .refused _
    · exact .mapError

theorem checkLocation_foreseen (stage : Stage) {location : String} (h : Followable location) :
    Foreseen (checkLocation stage location) := by
  rw [checkLocation]
  split
  · exact .refused _
  next target htarget =>
    have htarget := h target htarget
    split
    next hhostless =>
      rw [if_pos hhostless] at htarget
      split
      next hpath => exact absurd htarget (not_or.mpr hpath)
      next => exact .ok ()
    next hhost =>
      rw [if_neg hhost] at htarget
      rw [htarget]
      exact .ok ()

theorem decoded_ok (h : r.decoded = .ok content) : content.location? = r.location? := by
  rw [Response.decoded] at h
  cases hbody : r.codings.reverse.foldlM (fun body coding => coding.undo body) r.body with
  | error e =>
    rw [hbody] at h
    cases h
  | ok body =>
    rw [hbody] at h
    cases h
    rfl

theorem receive_foreseen (stage : Stage) {endpoint : Url.Endpoint} (hscheme : endpoint.scheme ≠ [])
    (h : (Reply.response r).Receivable) :
    Foreseen (receive stage endpoint r)
      ∧ ∀ content, receive stage endpoint r = .ok content → r.decoded = .ok content := by
  simp only [receive, checkHeaders_ok h.1, if_neg hscheme]
  cases hdecoded : r.decoded with
  | error e => exact ⟨.refused _, fun _ h => nomatch h⟩
  | ok content =>
    simp only [Except.mapError, bind, Except.bind, pure, Except.pure]
    split
    next location hlocation =>
      rw [decoded_ok hdecoded] at hlocation
      have hcheck := checkLocation_foreseen stage (h.2 location hlocation)
      cases hresult : checkLocation stage location with
      | error e =>
        rw [hresult] at hcheck
        refine ⟨fun _ he => ?_, fun _ h => nomatch h⟩
        cases he
        exact hcheck e rfl
      | ok u => exact ⟨.ok content, by rintro _ ⟨⟩; rfl⟩
    next => exact ⟨.ok content, by rintro _ ⟨⟩; rfl⟩

end

-- -----------------------------------------------------------------------------
-- Requests
-- -----------------------------------------------------------------------------

def Script.reply (script : Script) : Stage → Reply
  | .token => script.token
  | .user => script.user

structure Undisturbed (w w' : World) : Prop where
  clock : w'.clock = w.clock
  provider : w'.provider = w.provider

section
variable {client : Client} {w : World}

theorem transmit_foreseen {stage : Stage} {endpoint : Url.Endpoint} {request : Request}
    (hhost : endpoint.checkHost = .ok ()) (hscheme : endpoint.scheme ≠ [])
    (hreply : (w.provider.reply stage).Receivable) :
    Triple (transmit stage endpoint request) w
      (fun content w' => (w.provider.reply stage).content? = some content ∧ Undisturbed w w')
      (fun e _ => e.isRefusal = true) := by
  refine Triple.bind (Q := fun _ w' => w = w') ?_ ?_
  · rw [hhost]
    exact .pure rfl
  rintro _ _ rfl
  refine Triple.bind (Q := fun _ w' => Undisturbed w w') (Triple.of_run rfl ⟨rfl, rfl⟩)
    fun _ v hv => ?_
  refine Triple.bind (Q := fun reply w' => reply = w.provider.reply stage ∧ Undisturbed w w')
    (Triple.look ⟨?_, hv⟩) ?_
  · cases stage <;> rw [hv.provider] <;> rfl
  rintro reply v ⟨rfl, hv⟩
  cases hwhat : w.provider.reply stage with
  | fault f =>
    rw [hwhat] at hreply
    have hforeign : f.foreign = false := hreply
    simp only [hforeign]
    exact .fail rfl
  | response r =>
    rw [hwhat] at hreply
    obtain ⟨hforeseen, hcontent⟩ := receive_foreseen stage hscheme hreply
    refine .ofExcept (fun content hreceive => ⟨?_, hv⟩) hforeseen
    rw [Reply.content?, hcontent content hreceive]
    rfl

/-- An exchange over an endpoint that answers orderly ends with the token in the answer, or with a
refusal. -/
theorem exchange_ends (hurl : Reachable client.tokenUrl) (h : w.provider.token.Orderly .token)
    (code : String) :
    Triple (client.exchange code) w
      (fun token w' => (∃ content, w.provider.token.content? = some content
        ∧ readToken content = .ok token) ∧ Undisturbed w w')
      (fun e _ => e.isRefusal = true) := by
  obtain ⟨endpoint, hread, hhost, hscheme⟩ := hurl
  rw [Client.exchange, hread]
  refine Triple.bind (Q := fun a w' => endpoint = a ∧ w = w') (.pure ⟨rfl, rfl⟩) ?_
  rintro _ _ ⟨rfl, rfl⟩
  refine Triple.bind (Q := fun s w' => code = s ∧ w = w') (.pure ⟨rfl, rfl⟩) ?_
  rintro _ _ ⟨rfl, rfl⟩
  refine Triple.bind (transmit_foreseen hhost hscheme h.receivable) ?_
  rintro content v ⟨hcontent, hv⟩
  have hforeseen := readToken_foreseen (h.content content hcontent) (h.excuse rfl content hcontent)
  refine Triple.bind (Q := fun token w' => readToken content = .ok token ∧ Undisturbed w w')
    (.ofExcept (fun token htoken => ⟨htoken, hv⟩) hforeseen) ?_
  rintro token v ⟨htoken, hv⟩
  exact Triple.of_run rfl ⟨⟨content, hcontent, htoken⟩, hv.clock, hv.provider⟩

theorem profile_ends {token : Json} (hurl : Reachable client.userUrl)
    (h : w.provider.user.Orderly .user) (htoken : Ascii token.displayed.codes) :
    Triple (client.profile token) w
      (fun user w' => (∃ content, w.provider.user.content? = some content
        ∧ readProfile content = .ok user) ∧ Undisturbed w w')
      (fun e _ => e.isRefusal = true) := by
  obtain ⟨endpoint, hread, hhost, hscheme⟩ := hurl
  obtain ⟨bearer, hbearer⟩ := bearerAuthorization_ok htoken
  rw [Client.profile, hread, hbearer]
  refine Triple.bind (Q := fun a w' => endpoint = a ∧ w = w') (.pure ⟨rfl, rfl⟩) ?_
  rintro _ _ ⟨rfl, rfl⟩
  refine Triple.bind (Q := fun _ w' => w = w') (.pure rfl) ?_
  rintro bearer _ rfl
  refine Triple.bind (transmit_foreseen hhost hscheme h.receivable) ?_
  rintro content v ⟨hcontent, hv⟩
  exact .ofExcept (fun user huser => ⟨⟨content, hcontent, huser⟩, hv⟩)
    (readProfile_foreseen (h.content content hcontent))

theorem exchange_foreseen (h : client.Served w.provider) (code : String) :
    Triple (client.exchange code) w
      (fun token w' => Ascii token.displayed.codes ∧ Undisturbed w w')
      (fun e _ => e.isRefusal = true) := by
  have horderly : w.provider.token.Orderly .token :=
    ⟨h.tokenReply, h.tokenContent, fun _ => h.excuse⟩
  refine (exchange_ends h.tokenUrl horderly code).mono ?_ fun _ _ he => he
  rintro token w' ⟨⟨content, hcontent, htoken⟩, hv⟩
  exact ⟨h.token content token hcontent htoken, hv⟩

theorem profile_foreseen (h : client.Served w.provider) {token : Json}
    (htoken : Ascii token.displayed.codes) :
    Triple (client.profile token) w
      (fun user w' => (∃ content, w.provider.user.content? = some content
        ∧ readProfile content = .ok user) ∧ Undisturbed w w')
      (fun e _ => e.isRefusal = true) :=
  profile_ends h.userUrl ⟨h.userReply, h.userContent, nofun⟩ htoken

end
end OnAir.Provider
