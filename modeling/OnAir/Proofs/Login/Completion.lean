import Mathlib
import OnAir.Proofs.Provider.Answers
import OnAir.Proofs.Store.Statement

/-!
# Logins that go through

The converse direction: a client who presents what the flow handed out, in time, gets through each
request, provided the provider names a user. A provider that answers with bare documents does.
-/

namespace OnAir

open Instant (horizon)

-- -----------------------------------------------------------------------------
-- Providers with bare answers
-- -----------------------------------------------------------------------------

namespace Provider

abbrev Response.bare (body : Bytes) : Response :=
  ⟨200, [], body⟩

variable {w : World}

theorem codings_bare (body : Bytes) : (Response.bare body).codings = [] := by
  have hheader : (Response.bare body).header? "content-encoding" = none := rfl
  rw [Response.codings, hheader]
  decide +kernel

theorem carries_bare (body : Bytes) : (Response.bare body).Carries (.bare body) where
  headers := rfl
  decoded := by
    simp only [Response.decoded, codings_bare]
    rfl
  status := rfl

theorem content?_bare (body : Bytes) :
    (Reply.response (.bare body)).content? = some (.bare body) := by
  rw [Reply.content?, (carries_bare body).decoded]
  rfl

theorem orderly_of_bare {stage : Stage} {body : Bytes} {document : Json}
    (h : Json.readBytes body = .ok document) : (Reply.response (.bare body)).Orderly stage where
  receivable := ⟨nofun, nofun⟩
  content := by
    rintro content hcontent - container hdeep
    cases (content?_bare body).symm.trans hcontent
    cases h.symm.trans hdeep
  excuse := by
    rintro - content hcontent hstatus
    cases (content?_bare body).symm.trans hcontent
    exact absurd rfl hstatus

theorem served_of_bare {client : Client} {tokenBody userBody : Bytes}
    {tokenDocument userDocument : Json} (htokenUrl : Reachable client.tokenUrl)
    (huserUrl : Reachable client.userUrl) (htoken : Json.readBytes tokenBody = .ok tokenDocument)
    (huser : Json.readBytes userBody = .ok userDocument)
    (hascii : ∀ token, readToken (.bare tokenBody) = .ok token → Ascii token.displayed.codes) :
    client.Served ⟨.response (.bare tokenBody), .response (.bare userBody)⟩ := by
  have htokenReply : (Reply.response (.bare tokenBody)).Orderly .token := orderly_of_bare htoken
  have huserReply : (Reply.response (.bare userBody)).Orderly .user := orderly_of_bare huser
  refine ⟨htokenUrl, huserUrl, htokenReply.receivable, huserReply.receivable, htokenReply.content,
    huserReply.content, htokenReply.excuse rfl, ?_⟩
  intro content token hcontent htoken
  cases (content?_bare tokenBody).symm.trans hcontent
  exact hascii token htoken

theorem exchange_of_bare {client : Client} {token : Json} {tokenBody : Bytes}
    (hurl : Reachable client.tokenUrl) (hreply : w.provider.token = .response (.bare tokenBody))
    (htoken : readToken (.bare tokenBody) = .ok token) (code : String) :
    ∃ v, (client.exchange code).run w = (.ok token, v) ∧ v.provider = w.provider :=
  exchange_run hurl hreply (carries_bare tokenBody) htoken code

theorem user_of_bare {client : Client} {code bearer : String} {token : Json}
    {user : Login.Identity} {tokenBody userBody : Bytes} (htokenUrl : Reachable client.tokenUrl)
    (huserUrl : Reachable client.userUrl)
    (hscript : w.provider = ⟨.response (.bare tokenBody), .response (.bare userBody)⟩)
    (htoken : readToken (.bare tokenBody) = .ok token)
    (hbearer : bearerAuthorization token = .ok bearer)
    (huser : readProfile (.bare userBody) = .ok user) :
    ((client.user code).run w).1 = .ok user := by
  obtain ⟨v, hexchange, hv⟩ := exchange_of_bare htokenUrl (by rw [hscript]) htoken code
  obtain ⟨w', hprofile⟩ := profile_run (w := v) huserUrl (by rw [hv, hscript])
    (carries_bare userBody) hbearer huser
  have hrun : (client.user code).run w = (.ok user, w') :=
    Act.bind_ok.mpr ⟨token, v, hexchange, hprofile⟩
  rw [hrun]

-- -----------------------------------------------------------------------------
-- A provider
-- -----------------------------------------------------------------------------

theorem exists_reachable : ∃ client : Client, client.configured = true
    ∧ Reachable client.tokenUrl ∧ Reachable client.userUrl := by
  have htoken : Reachable "https://id.example/token" :=
    ⟨⟨"https".toList, [], "id.example".toList, none, "/token".toList, none, none⟩, by cbv, by cbv,
      by decide⟩
  have huser : Reachable "https://id.example/user" :=
    ⟨⟨"https".toList, [], "id.example".toList, none, "/user".toList, none, none⟩, by cbv, by cbv,
      by decide⟩
  exact ⟨⟨"id", "key", "https://id.example/login", _, _, "https://on.air/callback", ["identify"]⟩,
    by decide, htoken, huser⟩

theorem exists_token (token : String) (h : token ≠ "") :
    ∃ body document, Json.readBytes body = .ok document
      ∧ readToken (.bare body) = .ok (.str token) := by
  have hreadable : Json.Readable Json.depthLimit (.obj [("access_token", .str token)]) :=
    ⟨rfl, rfl, Nat.zero_le _, by simp [Json.depth, Json.fieldsDepth, Json.depthLimit]⟩
  obtain ⟨body, hbody⟩ : ∃ body, Json.readBytes body = .ok (.obj [("access_token", .str token)]) :=
    ⟨Utf8.encode (Json.text Json.tokenLayout _), Json.readBytes_obj hreadable⟩
  have htruthy : (Json.str token).isTruthy = true := by
    simp [Json.isTruthy, RawText.isEmpty, h]
  refine ⟨body, _, hbody, ?_⟩
  simp only [readToken, readBody, hbody]
  change (if (Json.str token).isTruthy then _ else _) = _
  rw [if_pos htruthy]
  rfl

theorem exists_profile : ∃ body document, Json.readBytes body = .ok document
    ∧ readProfile (.bare body) = .ok ⟨"42", "ann", "", ""⟩ := by
  have hreadable : Json.Readable Json.depthLimit
      (.obj [("id", .str "42"), ("username", .str "ann")]) := by
    constructor <;> decide
  obtain ⟨body, hbody⟩ : ∃ body, Json.readBytes body
      = .ok (.obj [("id", .str "42"), ("username", .str "ann")]) :=
    ⟨Utf8.encode (Json.text Json.tokenLayout _), Json.readBytes_obj hreadable⟩
  refine ⟨body, _, hbody, ?_⟩
  simp only [readProfile, readBody, hbody]
  decide +kernel

theorem exists_brings (field : RawText × Json) (rest : List (RawText × Json))
    (h : Json.Readable Json.depthLimit (.obj (field :: rest))) :
    ∃ reply : Reply, reply.Brings (.obj (field :: rest)) :=
  ⟨.response (.bare (Utf8.encode (Json.text Json.tokenLayout (.obj (field :: rest))))), _, _, rfl,
    carries_bare _, Json.readBytes_obj h⟩

theorem exists_naming (clock : ℤ) :
    ∃ (client : Client) (w : World), client.configured = true ∧ w.clock = clock
      ∧ ((client.user "code").run w).1 = .ok ⟨"42", "ann", "", ""⟩ := by
  obtain ⟨client, hconfigured, htokenUrl, huserUrl⟩ := exists_reachable
  obtain ⟨tokenBody, -, -, htoken⟩ := exists_token "t" (by decide)
  obtain ⟨userBody, -, -, huser⟩ := exists_profile
  let script : Script := ⟨.response (.bare tokenBody), .response (.bare userBody)⟩
  obtain ⟨w, hscript, hclock⟩ : ∃ w : World, w.provider = script ∧ w.clock = clock :=
    ⟨{ Store.holding .empty with clock, provider := script }, rfl, rfl⟩
  have hbearer : bearerAuthorization (.str "t") = .ok "Bearer t" := by decide +kernel
  exact ⟨client, w, hconfigured, hclock,
    user_of_bare htokenUrl huserUrl hscript htoken hbearer huser⟩

end Provider

-- -----------------------------------------------------------------------------
-- Requests
-- -----------------------------------------------------------------------------

namespace Login.Flow

open Seal (CookieChange Sealer)

variable {flow : Flow} {sealer : Sealer} {w : World}

theorem requireConfigured_run (hsealer : flow.sealer = some sealer)
    (hconfigured : flow.provider.configured = true) (cookies : List CookieChange) :
    (flow.requireConfigured cookies).run w = (.ok sealer, w) := by
  simp [requireConfigured, hsealer, hconfigured]

theorem sealCookie_run {name token : String} {value : Json} {lifetime : ℤ}
    (h : sealer.seal value lifetime name w.clock = .ok token) :
    (sealCookie sealer name value lifetime).run w = (.ok ⟨name, token, lifetime⟩, w) := by
  simp only [sealCookie, Act.bind_ok, Act.now_ok, Act.ofExcept_ok, mapError_ok]
  refine ⟨_, _, ⟨rfl, rfl⟩, ?_, rfl⟩
  simp only [Sealer.cookie, h]
  rfl

theorem initiate_of_seal {token : String} (hsealer : flow.sealer = some sealer)
    (hconfigured : flow.provider.configured = true)
    (hseal : sealer.seal (.str (stateAt w)) stateLifetime flow.stateCookie w.clock = .ok token) :
    (flow.initiate.run w).1
      = .ok ⟨.pending, some (flow.provider.authorizationUrl (stateAt w)),
          [⟨flow.stateCookie, token, stateLifetime⟩]⟩ := by
  simp only [initiate, Act.run_bind, requireConfigured_run hsealer hconfigured, newState_run]
  rw [sealCookie_run (w := { w with random := { w.random with drawn := w.random.drawn + 9 } }) hseal]
  rfl

theorem initiate_run (hsealer : flow.sealer = some sealer)
    (hconfigured : flow.provider.configured = true) (hnonneg : 0 ≤ w.clock)
    (h : w.clock < horizon) :
    ∃ token, sealer.seal (.str (stateAt w)) stateLifetime flow.stateCookie w.clock = .ok token
      ∧ (flow.initiate.run w).1
        = .ok ⟨.pending, some (flow.provider.authorizationUrl (stateAt w)),
            [⟨flow.stateCookie, token, stateLifetime⟩]⟩ := by
  obtain ⟨token, hseal⟩ := Seal.exists_seal sealer (.str (stateAt w)) stateLifetime
    flow.stateCookie rfl (Nat.zero_le _) (by simp [Json.depth, Json.depthLimit]) (by decide)
    hnonneg h
  exact ⟨token, hseal, initiate_of_seal hsealer hconfigured hseal⟩

/-- A cookie that is not empty is opened, and what it holds is compared with the state. -/
theorem checkState_opened {state stateCookie : Option RawText} {remote : String}
    {consumed : List CookieChange} (h : (stateCookie.getD "").isEmpty = false) :
    (flow.checkState sealer state stateCookie consumed remote).run w
      = Act.run (match sealer.unseal (stateCookie.getD "") flow.stateCookie w.clock with
        | .error e =>
          if e.isRefusal then mismatch consumed remote ("state cookie rejected: " ++ e.message)
          else Act.fail (.unsealing e)
        | .ok expected =>
          match stateMatches expected state with
          | .error e => Act.fail (.surrogate e)
          | .ok true => return
          | .ok false => mismatch consumed remote "state mismatch") w := by
  simp only [checkState, h]
  rw [if_neg Bool.false_ne_true, if_pos (by decide), Act.run_bind]
  rfl

theorem isEmpty_of_unseal {token purpose : RawText} {now : Instant} {value : Json}
    (h : sealer.unseal token purpose now = .ok value) : token.isEmpty = false := by
  cases hempty : token.isEmpty with
  | false => rfl
  | true =>
    rw [Sealer.unseal, if_pos hempty] at h
    cases h

theorem stateMatches_text {text other : String} {state : Option RawText}
    (h : state.getD "" = other) :
    stateMatches (.str text) state = .ok (decide (text = other)) := by
  have hbytes : Utf8.ofString text = Utf8.ofString other ↔ text = other :=
    ⟨fun h => Utf8.ofString_injective h, congrArg Utf8.ofString⟩
  simp [stateMatches, h, bind, Except.bind, pure, Except.pure, hbytes]

theorem checkState_run {remote text : String} {consumed : List CookieChange}
    {state stateCookie : Option RawText} (hstate : state.getD "" = text)
    (hopen : sealer.unseal (stateCookie.getD "") flow.stateCookie w.clock = .ok (.str text)) :
    (flow.checkState sealer state stateCookie consumed remote).run w = (.ok (), w) := by
  have hmatch : stateMatches (.str text) state = .ok true := by
    rw [stateMatches_text hstate, decide_eq_true rfl]
  rw [checkState_opened (isEmpty_of_unseal hopen), hopen]
  simp only [hmatch]
  rfl

theorem consulting_run {α : Type} {f : Failure} {consumed : List CookieChange} {remote : String}
    {act : Act Provider.Error α} {a : α} {w' : World} (h : act.run w = (.ok a, w')) :
    (consulting f consumed remote act).run w = (.ok a, w') :=
  Act.handle_ok.mpr (.inl h)

theorem callback_of_seal {code cookie : RawText} {state token : String} {user : Identity}
    (remote : String) (hsealer : flow.sealer = some sealer)
    (hconfigured : flow.provider.configured = true) (hcode : code.isEmpty = false)
    (hopen : sealer.unseal cookie flow.stateCookie w.clock = .ok (.str state))
    (huser : ((flow.provider.user code).run w).1 = .ok user)
    (hseal : sealer.seal user.toJson loginLifetime flow.loginCookie w.clock = .ok token) :
    ((flow.callback (some code) (some (.text state)) (some cookie) remote).run w).1
      = .ok ⟨.authenticated, some "/", [CookieChange.clear flow.stateCookie,
          ⟨flow.loginCookie, token, loginLifetime⟩]⟩ := by
  obtain ⟨answer, w₁, hexchange, hprofile⟩ := Act.bind_ok.mp (Act.run_eq huser)
  have hclock : (Act.run (flow.provider.user code) w).2.clock = w.clock :=
    (Provider.profile_clock hprofile).trans (Provider.exchange_clock hexchange)
  rw [← hclock] at hseal
  suffices hrun : ∃ w', (flow.callback (some code) (some (.text state)) (some cookie) remote).run w
      = (.ok ⟨.authenticated, some "/", [CookieChange.clear flow.stateCookie,
          ⟨flow.loginCookie, token, loginLifetime⟩]⟩, w') by
    obtain ⟨w', hrun⟩ := hrun
    rw [hrun]
  simp only [callback, Option.getD_some, hcode, Bool.false_eq_true, if_false, Act.bind_ok,
    Act.note_ok, Act.pure_ok]
  exact ⟨_, sealer, w, requireConfigured_run hsealer hconfigured _, (), w,
    checkState_run rfl hopen,
    answer, w₁, consulting_run hexchange, user, _, consulting_run hprofile, (), _, rfl, _, _,
    sealCookie_run hseal, rfl, rfl⟩

theorem callback_run {code cookie : RawText} {state : String} {user : Identity} (remote : String)
    (hsealer : flow.sealer = some sealer) (hconfigured : flow.provider.configured = true)
    (hcode : code.isEmpty = false)
    (hopen : sealer.unseal cookie flow.stateCookie w.clock = .ok (.str state))
    (huser : ((flow.provider.user code).run w).1 = .ok user)
    (hproper : user.toJson.isBroken = false) (hnonneg : 0 ≤ w.clock) (h : w.clock < horizon) :
    ∃ token, sealer.seal user.toJson loginLifetime flow.loginCookie w.clock = .ok token
      ∧ ((flow.callback (some code) (some (.text state)) (some cookie) remote).run w).1
        = .ok ⟨.authenticated, some "/", [CookieChange.clear flow.stateCookie,
            ⟨flow.loginCookie, token, loginLifetime⟩]⟩ := by
  obtain ⟨token, hseal⟩ := Seal.exists_seal sealer user.toJson loginLifetime
    flow.loginCookie hproper (Nat.zero_le _) user.depth_toJson_lt (by decide) hnonneg h
  exact ⟨token, hseal, callback_of_seal remote hsealer hconfigured hcode hopen huser hseal⟩

theorem requireIdentity_run {cookie : RawText} {user : Identity} (remote : String)
    (hsealer : flow.sealer = some sealer)
    (hopen : sealer.unseal cookie flow.loginCookie w.clock = .ok user.toJson)
    (huser : user.isAnonymous = false) :
    ((flow.requireIdentity (some cookie) remote).run w).1 = .ok user := by
  simp [requireIdentity, Act.run_bind, unsealIdentity, hsealer, hopen, Identity.ofJson?_toJson,
    huser]

end Login.Flow
end OnAir
