import OnAir.Proofs.Provider.Parameters

/-!
# What comes of an answer

An exchange ends with a token exactly if its endpoint can be reached and the answer grants the
token; a request for a profile ends with a user exactly if its endpoint can be reached, the token
can be shown, and the answer names the user. Whatever else is answered is refused, if nothing
unforeseen is in it.
-/

namespace OnAir

-- -----------------------------------------------------------------------------
-- Values that are shown
-- -----------------------------------------------------------------------------

theorem Double.text_plain_ne_nil (x : Double) : x.text Double.plain ≠ [] := by
  cases x with
  | nan => decide
  | infinite negative => cases negative <;> decide
  | finite negative m q =>
    simp only [Double.text]
    split
    · exact List.append_ne_nil_of_right_ne_nil _ (List.cons_ne_nil _ _)
    refine List.append_ne_nil_of_right_ne_nil _ ?_
    -- scientific, below one, whole, or with a point between the digits
    split
    · exact List.append_ne_nil_of_right_ne_nil _ (List.cons_ne_nil _ _)
    split
    · exact List.cons_ne_nil _ _
    split <;> exact List.append_ne_nil_of_right_ne_nil _ (List.cons_ne_nil _ _)

theorem Json.exists_fields {document value : Json} {key : String}
    (h : document.get? key = some value) : ∃ fields, document = .obj fields := by
  cases document with
  | obj fields => exact ⟨fields, rfl⟩
  | _ => cases h

theorem Json.isEmpty_displayed {value : Json} (h : value.isTruthy = true) :
    value.displayed.isEmpty = false := by
  have hshown {text : List Char} (hne : text ≠ []) :
      (RawText.text (String.ofList text)).isEmpty = false := by
    simpa [RawText.isEmpty] using hne
  cases value with
  | null => cases h
  | bool b =>
    cases h
    decide
  | int n => exact hshown (by rw [shown]; exact Provider.integerText_ne_nil n)
  | float x => exact hshown (by rw [shown]; exact x.text_plain_ne_nil)
  | str s => exact Bool.not_eq_true' _ ▸ h
  | arr items => exact hshown (by simp [shown])
  | obj fields => exact hshown (by simp [shown])

namespace Provider

open Act (Triple run)
open Login (Identity)
open Validation (Fields)

-- -----------------------------------------------------------------------------
-- Answers
-- -----------------------------------------------------------------------------

/-- The answer to a code grants a token: an object with a value that counts as present, of whichever
kind. -/
def Reply.Grants (reply : Reply) (token : Json) : Prop :=
  ∃ fields, reply.Brings (.obj fields) ∧ (Json.obj fields).get? "access_token" = some token
    ∧ token.isTruthy = true

def Reply.Names (reply : Reply) (user : Identity) : Prop :=
  ∃ fields, reply.Brings (.obj fields) ∧ ProfileOf (.obj fields) user

-- -----------------------------------------------------------------------------
-- Requests
-- -----------------------------------------------------------------------------

section
variable {client : Client} {w : World} {stage : Stage} {endpoint : Url.Endpoint}
  {request : Request} {r content : Response} {token : Json} {user : Identity}

theorem ascii_of_headerText {codes : List Nat} {text : String} (h : headerText codes = .ok text) :
    Ascii codes := by
  rw [headerText] at h
  split at h
  next hnil =>
    have hprefix : codes.takeWhile (· < 128) = codes :=
      (List.takeWhile_prefix _).eq_of_length_le (List.drop_eq_nil_iff.mp hnil)
    exact fun code hcode =>
      of_decide_eq_true (List.takeWhile_eq_self_iff.mp hprefix code hcode)
  next => cases h

theorem ascii_of_bearer {bearer : String} (h : bearerAuthorization token = .ok bearer) :
    Ascii token.displayed.codes := by
  have hcodes : (RawText.text "Bearer " ++ token.displayed).codes
      = "Bearer ".toList.map Char.toNat ++ token.displayed.codes := RawText.codes_ofCodes _
  have hascii := ascii_of_headerText h
  rw [hcodes] at hascii
  exact fun code hcode => hascii code (List.mem_append_right _ hcode)

theorem receive_ok (h : receive stage endpoint r = .ok content) :
    r.checkHeaders = .ok () ∧ r.decoded = .ok content ∧ endpoint.scheme ≠ [] := by
  simp only [receive] at h
  obtain ⟨_, hheaders, h⟩ := exceptBind_ok.mp h
  obtain ⟨arrived, hdecoded, h⟩ := exceptBind_ok.mp h
  rw [mapError_ok] at hheaders hdecoded
  by_cases hscheme : endpoint.scheme = []
  · rw [if_pos hscheme] at h
    cases h
  rw [if_neg hscheme] at h
  suffices arrived = content from ⟨hheaders, this ▸ hdecoded, hscheme⟩
  split at h
  · obtain ⟨_, -, h⟩ := exceptBind_ok.mp h
    cases h
    rfl
  · cases h
    rfl

theorem transmit_ok {v : World} (hstatus : content.status = 200)
    (h : (transmit stage endpoint request).run w = (.ok content, v)) :
    endpoint.checkHost = .ok () ∧ endpoint.scheme ≠ []
      ∧ ∃ r, w.provider.reply stage = .response r ∧ r.Carries content := by
  simp only [transmit, Act.bind_ok, Act.ofExcept_ok, Act.change_ok, Act.look_ok, mapError_ok] at h
  obtain ⟨_, _, ⟨hhost, rfl⟩, _, _, rfl, reply, _, ⟨hreply, rfl⟩, h⟩ := h
  refine ⟨hhost, ?_⟩
  cases reply with
  | fault f => simp at h
  | response r =>
    obtain ⟨hheaders, hdecoded, hscheme⟩ := receive_ok (Act.ofExcept_ok.mp h).1
    refine ⟨hscheme, r, ?_, hheaders, hdecoded, hstatus⟩
    cases stage <;> exact hreply

theorem exchange_ok_iff {code : String} : (run (client.exchange code) w).1 = .ok token
    ↔ Reachable client.tokenUrl ∧ w.provider.token.Grants token := by
  constructor
  · intro h
    have hrun := Act.run_eq h
    simp only [Client.exchange, Act.bind_ok, Act.ofExcept_ok, Act.note_ok, Act.pure_ok, mapError_ok]
      at hrun
    obtain ⟨endpoint, _, ⟨hread, rfl⟩, _, _, ⟨-, rfl⟩, content, _, hsent, _, _, ⟨htoken, rfl⟩, _,
      _, -, rfl, -⟩ := hrun
    obtain ⟨hstatus, document, hbody, hlookup, htruthy⟩ := readToken_ok_iff.mp htoken
    obtain ⟨hhost, hscheme, r, hreply, hcarries⟩ := transmit_ok hstatus hsent
    obtain ⟨fields, rfl⟩ := Json.exists_fields hlookup
    exact ⟨⟨endpoint, hread, hhost, hscheme⟩, fields, ⟨r, content, hreply, hcarries, hbody⟩,
      hlookup, htruthy⟩
  · rintro ⟨hurl, fields, ⟨r, content, hreply, hcarries, hbody⟩, hlookup, htruthy⟩
    obtain ⟨v, hrun, -⟩ := exchange_run hurl hreply hcarries
      (readToken_ok_iff.mpr ⟨hcarries.status, _, hbody, hlookup, htruthy⟩) code
    rw [hrun]

/-- A request for a profile ends with a user exactly if the token can be shown and the answer
names the user. -/
theorem profile_ok_iff : (run (client.profile token) w).1 = .ok user
    ↔ Reachable client.userUrl ∧ Ascii token.displayed.codes ∧ w.provider.user.Names user := by
  constructor
  · intro h
    have hrun := Act.run_eq h
    simp only [Client.profile, Act.bind_ok, Act.ofExcept_ok, mapError_ok] at hrun
    obtain ⟨endpoint, _, ⟨hread, rfl⟩, bearer, _, ⟨hbearer, rfl⟩, content, _, hsent, huser, -⟩ :=
      hrun
    obtain ⟨hstatus, profile, hbody, hprofile⟩ := readProfile_ok_iff.mp huser
    obtain ⟨hhost, hscheme, r, hreply, hcarries⟩ := transmit_ok hstatus hsent
    obtain ⟨id, hid, -⟩ := hprofile.id
    obtain ⟨fields, rfl⟩ := Json.exists_fields hid
    exact ⟨⟨endpoint, hread, hhost, hscheme⟩, ascii_of_bearer hbearer, fields,
      ⟨r, content, hreply, hcarries, hbody⟩, hprofile⟩
  · rintro ⟨hurl, hascii, fields, ⟨r, content, hreply, hcarries, hbody⟩, hprofile⟩
    obtain ⟨bearer, hbearer⟩ := bearerAuthorization_ok hascii
    obtain ⟨v, hrun⟩ := profile_run hurl hreply hcarries hbearer
      (readProfile_ok_iff.mpr ⟨hcarries.status, _, hbody, hprofile⟩)
    rw [hrun]

theorem Reply.Names.isEmpty_id {reply : Reply} (h : reply.Names user) :
    user.id.isEmpty = false := by
  obtain ⟨fields, -, ⟨value, -, htruthy, hid⟩, -⟩ := h
  rw [← hid]
  exact Json.isEmpty_displayed htruthy

theorem refused_of_ends {α : Type} {act : Act Error α} {Q : α → World → Prop}
    (h : Triple act w Q fun e _ => e.isRefusal = true) (hnone : ∀ a, (run act w).1 ≠ .ok a) :
    ∃ refusal, (run act w).1 = .error (.refused refusal) := by
  rcases hrun : run act w with ⟨e | a, v⟩
  · cases e with
    | refused refusal => exact ⟨refusal, rfl⟩
    | _ => exact absurd (h.error hrun) Bool.false_ne_true
  · exact absurd (congrArg Prod.fst hrun) (hnone a)

end

/-- Every answer is settled by what it holds. An exchange sends no more than one request; it ends
with a token exactly if the endpoint can be reached, the code is text and the answer grants this
token, and with a refusal if the answer is orderly and grants none. So does a request for a profile
behind a token that can be shown in a header, with the user that the answer names, who has an id. -/
theorem answers_settled (client : Client) (w : World) :
    (∀ code : RawText, (∃ requests, (run (client.exchange code) w).2.sent = w.sent ++ requests
          ∧ requests.length ≤ 1)
      ∧ (∀ token, (run (client.exchange code) w).1 = .ok token
        ↔ Reachable client.tokenUrl ∧ (∃ text : String, code = text)
          ∧ w.provider.token.Grants token)
      ∧ (Reachable client.tokenUrl → (∃ text : String, code = text) →
        w.provider.token.Orderly .token → (∀ token, ¬w.provider.token.Grants token) →
        ∃ refusal, (run (client.exchange code) w).1 = .error (.refused refusal)))
    ∧ ∀ token, (∃ requests, (run (client.profile token) w).2.sent = w.sent ++ requests
          ∧ requests.length ≤ 1)
      ∧ (∀ user, (run (client.profile token) w).1 = .ok user
        ↔ Reachable client.userUrl ∧ Ascii token.displayed.codes ∧ w.provider.user.Names user)
      ∧ (∀ user, w.provider.user.Names user → user.id.isEmpty = false)
      ∧ (Reachable client.userUrl → Ascii token.displayed.codes → w.provider.user.Orderly .user →
        (∀ user, ¬w.provider.user.Names user) →
        ∃ refusal, (run (client.profile token) w).1 = .error (.refused refusal)) := by
  refine ⟨fun code => ⟨⟨_, exchange_sent client code w, length_tokenRequests_le client code⟩,
      fun token => ?_, ?_⟩,
    fun token => ⟨⟨_, profile_sent client token w, length_profileRequests_le client token⟩,
      fun user => profile_ok_iff, fun user => Reply.Names.isEmpty_id,
      fun hurl hascii horderly hnone => ?_⟩⟩
  · cases code with
    | text code => exact exchange_ok_iff.trans (by simp)
    | broken codes =>
      obtain ⟨e, hrun, -⟩ := exchange_broken client codes w
      simp [hrun]
  · rintro hurl ⟨code, rfl⟩ horderly hnone
    exact refused_of_ends (exchange_ends hurl horderly code)
      fun token htoken => hnone token (exchange_ok_iff.mp htoken).2
  · exact refused_of_ends (profile_ends hurl horderly hascii)
      fun user huser => hnone user (profile_ok_iff.mp huser).2.2

/-- A provider that grants a token and names a user, and one that is out of reach. -/
theorem answers_settled_granted : ∃ (client : Client) (w v : World) (token : Json),
    (run (client.exchange "c") w).1 = .ok token ∧ token = .str "t"
    ∧ (run (client.profile token) w).1 = .ok ⟨"42", "ann", "", ""⟩
    ∧ (∃ refusal, (run (client.exchange "c") v).1 = .error (.refused refusal))
    ∧ ∃ refusal, (run (client.profile token) v).1 = .error (.refused refusal) := by
  obtain ⟨client, -, htokenUrl, huserUrl⟩ := exists_reachable
  let profile : Fields := [("id", .int 42), ("username", .str "ann"), ("avatar", .null)]
  obtain ⟨granting, hgranting⟩ :
      ∃ reply : Reply, reply.Brings (.obj [("access_token", .str "t")]) :=
    exists_brings _ _ (by constructor <;> decide)
  obtain ⟨naming, hnaming⟩ : ∃ reply : Reply, reply.Brings (.obj profile) :=
    exists_brings _ _ (by constructor <;> decide)
  let fault : Reply := .fault ⟨false, "ReadTimeout", ""⟩
  let world (script : Script) : World :=
    { Store.holding .empty with provider := script }
  let w := world ⟨granting, naming⟩
  let v := world ⟨fault, fault⟩
  have hgrants : w.provider.token.Grants (.str "t") := ⟨_, hgranting, rfl, by decide⟩
  have hnames : w.provider.user.Names ⟨"42", "ann", "", ""⟩ :=
    ⟨profile, hnaming, ⟨.int 42, rfl, by decide, by decide +kernel⟩, .text rfl, .missing rfl,
      .falsy rfl rfl⟩
  have horderly {stage : Stage} : fault.Orderly stage := ⟨rfl, nofun, fun _ => nofun⟩
  have hascii : ∀ code ∈ (Json.str "t").displayed.codes, code < 128 := by decide
  obtain ⟨hexchange, hprofile⟩ := answers_settled client w
  obtain ⟨hrefused, hrefused'⟩ := answers_settled client v
  refine ⟨client, w, v, .str "t", ((hexchange "c").2.1 _).mpr ⟨htokenUrl, ⟨"c", rfl⟩, hgrants⟩, rfl,
    ((hprofile _).2.1 _).mpr ⟨huserUrl, hascii, hnames⟩,
    (hrefused "c").2.2 htokenUrl ⟨"c", rfl⟩ horderly ?_, (hrefused' _).2.2.2 huserUrl hascii horderly ?_⟩
  · rintro token ⟨fields, ⟨r, content, hresponse, -⟩, -⟩
    cases hresponse
  · rintro user ⟨fields, ⟨r, content, hresponse, -⟩, -⟩
    cases hresponse

/-- A number is taken for a token. -/
theorem number_granted : ∃ (client : Client) (w : World), Reachable client.tokenUrl
    ∧ w.provider.token.Orderly .token
    ∧ ∀ code : String, (run (client.exchange code) w).1 = .ok (.int 5) := by
  obtain ⟨client, -, hurl, -⟩ := exists_reachable
  let fields : Fields := [("access_token", .int 5), ("token_type", .str "Bearer")]
  have hreadable : Json.Readable Json.depthLimit (.obj fields) := by constructor <;> decide
  let body := Utf8.encode (Json.text Json.tokenLayout (.obj fields))
  have hbody : Json.readBytes body = .ok (.obj fields) := Json.readBytes_obj hreadable
  let w : World := { Store.holding .empty with
    provider := ⟨.response (.bare body), .fault ⟨false, "ReadTimeout", ""⟩⟩ }
  have hgrants : w.provider.token.Grants (.int 5) :=
    ⟨fields, ⟨_, _, rfl, carries_bare body, hbody⟩, rfl, rfl⟩
  exact ⟨client, w, hurl, orderly_of_bare hbody, fun code => exchange_ok_iff.mpr ⟨hurl, hgrants⟩⟩

end Provider
end OnAir
