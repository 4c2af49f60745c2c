import OnAir.Proofs.Provider.Foreseen
import OnAir.Proofs.Bytes.Base64
import OnAir.Proofs.Login.Completion
import OnAir.Proofs.Url.Percent

/-!
# What the provider and the browser are told

Which requests go out depends on the client, and on the code or the token, alone: an exchange sends
its one request if the address of the endpoint names a host, and so does a profile if the token can be
shown besides. What comes back, and everything else in the world, makes no difference. A call that
ends as foreseen has sent its request.

A browser is sent out with five parameters, and a code is exchanged with three and a pair of
credentials. Whoever reads them finds the texts that were put in, whatever these texts hold, and
finds nothing else: the query that the address of the provider brings along comes first and is left
as it is.
-/

namespace OnAir.Provider

open Act (run)

def endpoint? (url : String) : Option Url.Endpoint :=
  match Url.Endpoint.read url.toList with
  | .ok endpoint => if endpoint.rooted.checkHost.isOk then some endpoint.rooted else none
  | .error _ => none

def Client.tokenRequest (client : Client) (code : String) (endpoint : Url.Endpoint) : Request where
  method := "POST"
  url := String.ofList endpoint.text
  authorization := basicAuthorization client.clientId client.clientSecret
  accept := some "application/json"
  contentType := some "application/x-www-form-urlencoded"
  body := some (String.ofList (Url.Form.encode (client.tokenForm code)))

def profileRequest (bearer : String) (endpoint : Url.Endpoint) : Request where
  method := "GET"
  url := String.ofList endpoint.text
  authorization := match endpoint.credentials? with
    | some (user, password) => basicAuthorization user password
    | none => bearer
  accept := none
  contentType := none
  body := none

def Client.tokenRequests (client : Client) : RawText → List Request
  | .text code => ((endpoint? client.tokenUrl).map (client.tokenRequest code)).toList
  | .broken _ => []

def Client.profileRequests (client : Client) (token : Json) : List Request :=
  match bearerAuthorization token with
  | .ok bearer => ((endpoint? client.userUrl).map (profileRequest bearer)).toList
  | .error _ => []

-- -----------------------------------------------------------------------------
-- What is sent
-- -----------------------------------------------------------------------------

section
variable {ε α β : Type} {w : World}

theorem sent_bind {act : Act ε α} {f : α → Act ε β} (h : ∀ a v, (run (f a) v).2.sent = v.sent) :
    (run (act >>= f) w).2.sent = (run act w).2.sent := by
  rw [Act.run_bind]
  rcases run act w with ⟨e | a, v⟩
  · rfl
  · exact h a v

end

theorem transmit_sent (stage : Stage) (endpoint : Url.Endpoint) (request : Request) (w : World) :
    (run (transmit stage endpoint request) w).2.sent
      = w.sent ++ if endpoint.checkHost.isOk then [request] else [] := by
  rw [transmit, Act.run_bind, Act.run_ofExcept]
  cases endpoint.checkHost with
  | error e => exact (List.append_nil _).symm
  | ok =>
    simp only [Except.mapError, Act.run_bind, Act.run_change, Act.run_look]
    split <;> rfl

theorem transmit_lost {stage : Stage} {endpoint : Url.Endpoint} {request : Request}
    {e : Url.HostName.Error} (h : endpoint.checkHost = .error e) (w : World) :
    run (transmit stage endpoint request) w = (.error (.host e), w) := by
  rw [transmit, Act.run_bind, Act.run_ofExcept, h]
  rfl

theorem exchange_sent (client : Client) (code : RawText) (w : World) :
    (run (client.exchange code) w).2.sent = w.sent ++ client.tokenRequests code := by
  rw [Client.exchange, Act.run_bind, Act.run_ofExcept]
  cases code with
  | broken codes =>
    cases Url.Endpoint.read client.tokenUrl.toList <;> exact (List.append_nil _).symm
  | text code =>
    rw [Client.tokenRequests, endpoint?]
    cases Url.Endpoint.read client.tokenUrl.toList with
    | error e => exact (List.append_nil _).symm
    | ok endpoint =>
      dsimp only [Except.mapError]
      rw [Act.run_bind, Act.run_ofExcept]
      let asked := transmit .token endpoint.rooted (client.tokenRequest code endpoint.rooted)
      have hsent : (run asked w).2.sent = _ := transmit_sent .token endpoint.rooted _ w
      refine Eq.trans (sent_bind fun response v => ?_) (hsent.trans ?_)
      · -- what is made of the response is only logged
        rw [Act.run_bind, Act.run_ofExcept]
        cases readToken response <;> rfl
      · split <;> rfl

theorem profile_sent (client : Client) (token : Json) (w : World) :
    (run (client.profile token) w).2.sent = w.sent ++ client.profileRequests token := by
  rw [Client.profile, Client.profileRequests, endpoint?, Act.run_bind, Act.run_ofExcept]
  cases Url.Endpoint.read client.userUrl.toList with
  | error e => cases bearerAuthorization token <;> exact (List.append_nil _).symm
  | ok endpoint =>
    dsimp only [Except.mapError]
    rw [Act.run_bind, Act.run_ofExcept]
    cases bearerAuthorization token with
    | error e => exact (List.append_nil _).symm
    | ok bearer =>
      have hsent := transmit_sent .user endpoint.rooted (profileRequest bearer endpoint.rooted) w
      refine Eq.trans (sent_bind fun response v => rfl) (hsent.trans ?_)
      simp only
      split <;> rfl

theorem length_tokenRequests_le (client : Client) (code : RawText) :
    (client.tokenRequests code).length ≤ 1 := by
  cases code with
  | broken codes => exact Nat.zero_le 1
  | text code =>
    rw [Client.tokenRequests]
    cases endpoint? client.tokenUrl with
    | none => exact Nat.zero_le 1
    | some endpoint => exact le_refl 1

theorem length_profileRequests_le (client : Client) (token : Json) :
    (client.profileRequests token).length ≤ 1 := by
  rw [Client.profileRequests]
  cases bearerAuthorization token with
  | error e => exact Nat.zero_le 1
  | ok bearer =>
    cases endpoint? client.userUrl with
    | none => exact Nat.zero_le 1
    | some endpoint => exact le_refl 1

-- -----------------------------------------------------------------------------
-- Foreseen ends
-- -----------------------------------------------------------------------------

variable {client : Client} {code : String} {token : Json} {w : World}

theorem exchange_broken (client : Client) (codes : List Nat) (w : World) :
    ∃ e, run (client.exchange (.broken codes)) w = (.error e, w) ∧ e.isRefusal = false := by
  rw [Client.exchange, Act.run_bind, Act.run_ofExcept]
  cases Url.Endpoint.read client.tokenUrl.toList <;> exact ⟨_, rfl, rfl⟩

theorem tokenRequests_of_foreseen {code : RawText}
    (h : Foreseen (run (client.exchange code) w).1) :
    ∃ (text : String) (endpoint : Url.Endpoint), code = text
      ∧ client.tokenRequests code = [client.tokenRequest text endpoint] := by
  cases code with
  | broken codes =>
    obtain ⟨e, hrun, he⟩ := exchange_broken client codes w
    rw [hrun] at h
    exact absurd ((h e rfl).symm.trans he) (by decide)
  | text code =>
    rw [Client.exchange, Act.run_bind, Act.run_ofExcept] at h
    rw [Client.tokenRequests, endpoint?]
    cases hread : Url.Endpoint.read client.tokenUrl.toList with
    | error e =>
      rw [hread] at h
      exact absurd (h _ rfl) Bool.false_ne_true
    | ok endpoint =>
      cases hhost : endpoint.rooted.checkHost with
      | error e =>
        rw [hread] at h
        dsimp only [Except.mapError] at h
        rw [Act.run_bind, Act.run_ofExcept] at h
        dsimp only [RawText.proper] at h
        rw [Act.run_bind, transmit_lost hhost] at h
        exact absurd (h _ rfl) Bool.false_ne_true
      | ok => exact ⟨code, endpoint.rooted, rfl, by simp only [hhost]; rfl⟩

theorem profileRequests_of_foreseen (h : Foreseen (run (client.profile token) w).1) :
    ∃ bearer endpoint, bearerAuthorization token = .ok bearer
      ∧ client.profileRequests token = [profileRequest bearer endpoint] := by
  rw [Client.profile, Act.run_bind, Act.run_ofExcept] at h
  rw [Client.profileRequests, endpoint?]
  cases hread : Url.Endpoint.read client.userUrl.toList with
  | error e =>
    rw [hread] at h
    exact absurd (h _ rfl) Bool.false_ne_true
  | ok endpoint =>
    rw [hread] at h
    dsimp only [Except.mapError] at h
    rw [Act.run_bind, Act.run_ofExcept] at h
    cases hbearer : bearerAuthorization token with
    | error e =>
      rw [hbearer] at h
      exact absurd (h _ rfl) Bool.false_ne_true
    | ok bearer =>
      rw [hbearer] at h
      dsimp only [Except.mapError] at h
      rw [Act.run_bind] at h
      cases hhost : endpoint.rooted.checkHost with
      | error e =>
        rw [transmit_lost hhost] at h
        exact absurd (h _ rfl) Bool.false_ne_true
      | ok => exact ⟨bearer, endpoint.rooted, rfl, by simp only [hhost]; rfl⟩

-- -----------------------------------------------------------------------------
-- Queries
-- -----------------------------------------------------------------------------

/-- The parameters in the query of an address, blank ones too; none where there is no query. -/
def queryOf (url : String) : List (String × String) :=
  ((Text.cutFirst? '?' url.toList).map fun (_, query) => Url.Form.decode true query).getD []

theorem queryOf_append {url : String} {front query : List Char} (hfront : '?' ∉ front)
    (hurl : url.toList = front ++ '?' :: query) : queryOf url = Url.Form.decode true query := by
  rw [queryOf, hurl, Text.cutFirst?_append hfront]
  rfl

theorem decode_encode_all (entries : List (String × String)) :
    Url.Form.decode true (Url.Form.encode entries) = entries := by
  rw [Url.Form.decode_encode]
  exact List.filter_eq_self.mpr fun _ _ => rfl

/-- A browser is sent out with the parameters, whatever the address of the provider holds before
them. -/
theorem queryOf_authorizationUrl (client : Client) (state : String) :
    queryOf (client.authorizationUrl state)
      = queryOf client.authorizeUrl ++ client.parameters state := by
  by_cases hmark : '?' ∈ client.authorizeUrl.toList
  · -- the form goes on after the query that is there
    obtain ⟨front, query, hurl, hfront⟩ := List.eq_append_cons_of_mem hmark
    have htext : (client.authorizationUrl state).toList
        = front ++ '?' :: (query ++ '&' :: Url.Form.encode (client.parameters state)) := by
      simp [Client.authorizationUrl, hurl]
    rw [queryOf_append hfront htext, queryOf_append hfront hurl, Url.Form.decode_append,
      decode_encode_all]
  · have htext : (client.authorizationUrl state).toList
        = client.authorizeUrl.toList ++ '?' :: Url.Form.encode (client.parameters state) := by
      simp [Client.authorizationUrl, hmark]
    have hnone : queryOf client.authorizeUrl = [] := by
      rw [queryOf, Text.cutFirst?_eq_none hmark]
      rfl
    rw [queryOf_append hmark htext, hnone, decode_encode_all, List.nil_append]

-- -----------------------------------------------------------------------------
-- Requests for a token
-- -----------------------------------------------------------------------------

def Request.form (request : Request) : List (String × String) :=
  Url.Form.decode true (request.body.getD "").toList

def Request.basic? (request : Request) : Option Bytes :=
  (Text.cutFirst? ' ' request.authorization.toList).bind fun (scheme, credentials) =>
    if scheme = "Basic".toList then Base64.decodeAfter .zero (Utf8.encode credentials) else none

/-- A request that exchanges a code: a form with its three parameters and nothing else, under the
credentials of the client. -/
structure Request.Exchanges (request : Request) (client : Client) (code : String) : Prop where
  method : request.method = "POST"
  contentType : request.contentType = some "application/x-www-form-urlencoded"
  form : request.form = [("grant_type", "authorization_code"), ("code", code),
    ("redirect_uri", client.redirectUrl)]
  credentials : request.basic? = some (Utf8.ofString (client.clientId ++ ":" ++ client.clientSecret))

theorem tokenRequest_exchanges (client : Client) (code : String) (endpoint : Url.Endpoint) :
    (client.tokenRequest code endpoint).Exchanges client code where
  method := rfl
  contentType := rfl
  form := by
    rw [Request.form, Client.tokenRequest, Option.getD_some, String.toList_ofList,
      decode_encode_all, Client.tokenForm]
  credentials := by
    have htext : (client.tokenRequest code endpoint).authorization.toList
        = "Basic".toList ++ ' ' :: Base64.encodePadded Base64.standard
          (Utf8.ofString (client.clientId ++ ":" ++ client.clientSecret)) := by
      simp [Client.tokenRequest, basicAuthorization]
    have hstandard : Base64.standard ∈ Base64.alphabets := by decide
    rw [Request.basic?, htext, Text.cutFirst?_append (by decide), Option.bind_some]
    dsimp only
    rw [if_pos rfl, Base64.decodeAfter_encodePadded hstandard]

theorem Request.Exchanges.code_eq {request request' : Request} {client' : Client} {code' : String}
    (h : request.Exchanges client code) (h' : request'.Exchanges client' code')
    (hbody : request.body = request'.body) : code = code' := by
  have hform : request.form = request'.form := by rw [Request.form, Request.form, hbody]
  rw [h.form, h'.form] at hform
  simp only [List.cons.injEq, Prod.mk.injEq, true_and] at hform
  exact hform.1

theorem tokenRequests_reachable (h : Reachable client.tokenUrl) (code : String) :
    ∃ endpoint, client.tokenRequests code = [client.tokenRequest code endpoint] := by
  obtain ⟨endpoint, hread, hhost, -⟩ := h
  refine ⟨endpoint.rooted, ?_⟩
  simp only [Client.tokenRequests, endpoint?, hread, hhost]
  rfl

/-- What an exchange sends is one request for its code, or nothing if the address of the endpoint
names no host. -/
theorem exchange_sends (client : Client) (code : String) (w : World) :
    ∃ requests, (run (client.exchange code) w).2.sent = w.sent ++ requests
      ∧ requests.length ≤ 1 ∧ (∀ request ∈ requests, request.Exchanges client code)
      ∧ (Reachable client.tokenUrl → requests ≠ []) := by
  refine ⟨client.tokenRequests code, exchange_sent client code w,
    length_tokenRequests_le client code, ?_, ?_⟩
  · intro request hrequest
    rw [Client.tokenRequests, Option.mem_toList, Option.map_eq_some_iff] at hrequest
    obtain ⟨endpoint, -, rfl⟩ := hrequest
    exact tokenRequest_exchanges client code endpoint
  · intro hurl
    obtain ⟨endpoint, hrequests⟩ := tokenRequests_reachable hurl code
    rw [hrequests]
    exact List.cons_ne_nil _ _

/-- No text can bring in a parameter or change one. Whatever the client is configured with, the
address that a browser is sent to reads as the query it had, followed by the five parameters; an
exchange sends no more than one request, exactly one where its endpoint can be reached, and that
reads as the three parameters and the credentials. Different states lead to different addresses, and
different codes to different bodies. -/
theorem parameters_come_back (client : Client) :
    (∀ state, queryOf (client.authorizationUrl state) = queryOf client.authorizeUrl
      ++ [("response_type", "code"), ("client_id", client.clientId),
        ("redirect_uri", client.redirectUrl), ("scope", " ".intercalate client.scopes),
        ("state", state)])
    ∧ (∀ (code : String) w, ∃ requests, (run (client.exchange code) w).2.sent = w.sent ++ requests
      ∧ requests.length ≤ 1 ∧ (∀ request ∈ requests, request.Exchanges client code)
      ∧ (Reachable client.tokenUrl → requests ≠ []))
    ∧ (∀ state state', client.authorizationUrl state = client.authorizationUrl state' →
      state = state')
    ∧ ∀ (code code' : String) w w' request request',
      (run (client.exchange code) w).2.sent = w.sent ++ [request] →
      (run (client.exchange code') w').2.sent = w'.sent ++ [request'] →
      request.body = request'.body → code = code' := by
  refine ⟨queryOf_authorizationUrl client, exchange_sends client, ?_, ?_⟩
  · intro state state' hurl
    have hquery := congrArg queryOf hurl
    rw [queryOf_authorizationUrl, queryOf_authorizationUrl, List.append_cancel_left_eq] at hquery
    simp only [Client.parameters, List.cons.injEq, Prod.mk.injEq, true_and, and_true] at hquery
    exact hquery
  · intro code code' w w' request request' hsent hsent' hbody
    have hexchanges {code : String} {w : World} {request : Request}
        (hsent : (run (client.exchange code) w).2.sent = w.sent ++ [request]) :
        request.Exchanges client code := by
      obtain ⟨requests, hall, -, hreads, -⟩ := exchange_sends client code w
      rw [hall, List.append_cancel_left_eq] at hsent
      exact hreads request (hsent ▸ List.mem_singleton_self request)
    exact (hexchanges hsent).code_eq (hexchanges hsent') hbody

/-- A client whose address brings a query along, with texts that look like parameters themselves,
and a state and a code that do so too. -/
theorem parameters_come_back_disguised : ∃ (client : Client) (code state : String) (w : World)
    (request request' : Request), Reachable client.tokenUrl
    ∧ client.scopes = ["read write", "x&state=1"] ∧ client.clientId = "a:b&c=ü"
    ∧ code = "c&redirect_uri=http://other/?x#+%41" ∧ state = "s&state=t"
    ∧ queryOf (client.authorizationUrl state) = [("tenant", "ü"), ("state", ""),
        ("response_type", "code"), ("client_id", "a:b&c=ü"), ("redirect_uri", "http://on.air/cb?a=b"),
        ("scope", "read write x&state=1"), ("state", "s&state=t")]
    ∧ (run (client.exchange code) w).2.sent = w.sent ++ [request]
    ∧ request.form = [("grant_type", "authorization_code"),
        ("code", "c&redirect_uri=http://other/?x#+%41"), ("redirect_uri", "http://on.air/cb?a=b")]
    ∧ request.basic? = some (Utf8.ofString "a:b&c=ü:p+q/:%")
    ∧ client.authorizationUrl state ≠ client.authorizationUrl "s"
    ∧ (run (client.exchange "c") w).2.sent = w.sent ++ [request'] ∧ request.body ≠ request'.body := by
  obtain ⟨⟨_, _, _, tokenUrl, userUrl, _, _⟩, -, hurl, -⟩ := exists_reachable
  let client : Client := ⟨"a:b&c=ü", "p+q/:%", "https://id.example/login?tenant=%C3%BC&&state",
    tokenUrl, userUrl, "http://on.air/cb?a=b", ["read write", "x&state=1"]⟩
  let code := "c&redirect_uri=http://other/?x#+%41"
  let fault : Reply := .fault ⟨false, "ReadTimeout", ""⟩
  let w : World := { Store.holding .empty with provider := ⟨fault, fault⟩ }
  have hquery : queryOf "https://id.example/login?tenant=%C3%BC&&state"
      = [("tenant", "ü"), ("state", "")] := by decide +kernel
  obtain ⟨hurls, hrequests, hstates, hcodes⟩ := parameters_come_back client
  have hsends (code : String) : ∃ request, (run (client.exchange code) w).2.sent = w.sent ++ [request]
      ∧ request.Exchanges client code := by
    obtain ⟨requests, hsent, hlength, hreads, hone⟩ := hrequests code w
    have hpos : 0 < requests.length := List.length_pos_iff.mpr (hone hurl)
    obtain ⟨request, rfl⟩ := List.length_eq_one_iff.mp (Nat.le_antisymm hlength hpos)
    exact ⟨request, hsent, hreads request (List.mem_singleton_self request)⟩
  obtain ⟨request, hsent, hexchanges⟩ := hsends code
  obtain ⟨request', hsent', -⟩ := hsends "c"
  refine ⟨client, code, "s&state=t", w, request, request', hurl, rfl, rfl, rfl, rfl, ?_, hsent,
    hexchanges.form, hexchanges.credentials, fun hsame => ?_, hsent', fun hsame => ?_⟩
  · rw [hurls, show queryOf client.authorizeUrl = _ from hquery]
    rfl
  · exact absurd (hstates _ _ hsame) (by decide)
  · exact absurd (hcodes _ _ w w _ _ hsent hsent' hsame) (by decide)

end OnAir.Provider
