import Mathlib
import OnAir.Proofs.Provider.Parameters
import OnAir.Proofs.Seal.Lifetime

/-!
# Logins from the first request to the last

What the first request hands out opens the second, and what the second hands out is the login, which
tells who was vouched for until its lifetime is over and nobody after that. Two tokens, the address
with the state in it and the profile itself are written and read on the way, and nothing is lost.
-/

namespace OnAir

open Instant (InTime Stampable inTime_iff_within utmost)

-- -----------------------------------------------------------------------------
-- The state on its way
-- -----------------------------------------------------------------------------

namespace Provider

def stateOf? (url : String) : Option String :=
  (Text.cutFirst? '?' url.toList).bind fun (_, query) =>
    (Url.Form.decode true query).reverse.lookup "state"

theorem stateOf?_eq (url : String) : stateOf? url = (queryOf url).reverse.lookup "state" := by
  rw [stateOf?, queryOf]
  cases Text.cutFirst? '?' url.toList <;> rfl

/-- A browser is sent out with the state, whatever the address of the provider holds before it. -/
theorem stateOf?_authorizationUrl (client : Client) (state : String) :
    stateOf? (client.authorizationUrl state) = some state := by
  rw [stateOf?_eq, queryOf_authorizationUrl, List.reverse_append]
  rfl

end Provider

namespace Login

open Seal (Sealer)

variable {flow : Flow} {sealer : Sealer} {w w₀ w₁ : World}

-- -----------------------------------------------------------------------------
-- Identities
-- -----------------------------------------------------------------------------

def pictureOf (flow : Flow) (id avatar : String) : String :=
  if avatar = "" then "" else flow.avatarBase ++ "/" ++ id ++ "/" ++ avatar ++ ".png"

theorem Flow.withAvatar_text (flow : Flow) (id username discriminator avatar : String) :
    flow.withAvatar ⟨id, username, discriminator, avatar⟩
      = ⟨id, username, discriminator, pictureOf flow id avatar⟩ := by
  by_cases hempty : avatar = ""
  · subst hempty
    rfl
  · have hpicture : (RawText.text avatar).isEmpty = false := by simp [hempty]
    simp only [withAvatar, hpicture, Bool.false_eq_true, if_false, pictureOf, if_neg hempty,
      RawText.text_append]

theorem Identity.isAnonymous_text {id username discriminator avatar : String} (hid : id ≠ "") :
    (⟨id, username, discriminator, avatar⟩ : Identity).isAnonymous = false := by
  simp [isAnonymous, hid]

theorem Identity.isBroken_text (id username discriminator avatar : String) :
    (⟨id, username, discriminator, avatar⟩ : Identity).toJson.isBroken = false := by
  rfl

-- -----------------------------------------------------------------------------
-- The login cookie
-- -----------------------------------------------------------------------------

namespace Flow

variable {cookie : RawText} {user : Identity}

theorem readIdentity_run (hsealer : flow.sealer = some sealer)
    (hopen : sealer.unseal cookie flow.loginCookie w.clock = .ok user.toJson)
    (huser : user.isAnonymous = false) :
    ((flow.readIdentity (some cookie)).run w).1 = .ok (flow.withAvatar user) := by
  simp [readIdentity, Act.run_bind, unsealIdentity, hsealer, hopen, Identity.ofJson?_toJson, huser]

theorem unsealIdentity_expired (hsealer : flow.sealer = some sealer)
    (hopen : sealer.unseal cookie flow.loginCookie w.clock = .error .expired) :
    flow.unsealIdentity (some cookie) w.clock = .ok none := by
  simp only [unsealIdentity, hsealer, Option.getD_some, hopen]
  rfl

theorem requireIdentity_nobody (remote : String)
    (h : flow.unsealIdentity (some cookie) w.clock = .ok none) :
    ((flow.requireIdentity (some cookie) remote).run w).1 = .error (.failure .notAuthorized) := by
  simp [requireIdentity, Act.run_bind, h]

theorem readIdentity_nobody (h : flow.unsealIdentity (some cookie) w.clock = .ok none) :
    ((flow.readIdentity (some cookie)).run w).1 = .ok .anonymous := by
  simp [readIdentity, Act.run_bind, h]

end Flow

/-- What a login cookie that was handed out at a time is good for: for its lifetime it tells who the
user is, and after that nobody. -/
structure GoodFrom (flow : Flow) (token : String) (start : Instant) (user shown : Identity) :
    Prop where
  within : ∀ (w : World) (remote : String), w.clock < utmost →
    InTime start 2592000 w.clock →
      ((flow.requireIdentity (some (.text token)) remote).run w).1 = .ok user
        ∧ ((flow.readIdentity (some (.text token))).run w).1 = .ok shown
  beyond : ∀ (w : World) (remote : String), w.clock < utmost →
    ¬InTime start 2592000 w.clock →
      ((flow.requireIdentity (some (.text token)) remote).run w).1 = .error (.failure .notAuthorized)
        ∧ ((flow.readIdentity (some (.text token))).run w).1 = .ok .anonymous

theorem goodFrom_of_seal {token : String} {start : Instant} {user : Identity}
    (hsealer : flow.sealer = some sealer) (hstart : Stampable start)
    (hseal : sealer.seal user.toJson loginLifetime flow.loginCookie start = .ok token)
    (huser : user.isAnonymous = false) :
    GoodFrom flow token start user (flow.withAvatar user) where
  within w remote hnow hwithin := by
    have hopen := Seal.unseal_within (Identity.isExact_toJson user) hstart hseal (by decide)
      (by decide) hnow ((inTime_iff_within hstart.nonneg (by decide)).mp hwithin)
    exact ⟨Flow.requireIdentity_run remote hsealer hopen huser,
      Flow.readIdentity_run hsealer hopen huser⟩
  beyond w remote hnow hbeyond := by
    have hnobody := Flow.unsealIdentity_expired hsealer
      (Seal.unseal_beyond (Identity.isExact_toJson user) hstart hseal (by decide) (by decide) hnow
        (mt (inTime_iff_within hstart.nonneg (by decide)).mpr hbeyond))
    exact ⟨Flow.requireIdentity_nobody remote hnobody, Flow.readIdentity_nobody hnobody⟩

-- -----------------------------------------------------------------------------
-- The whole login
-- -----------------------------------------------------------------------------

/-- Whoever is sent out and comes back with what he was given, within 900 seconds and with some code,
is signed in as the user whom the provider vouches for, and stays so for 2592000 seconds and no
longer. The clock may show any dates. -/
theorem login_lifetime (flow : Flow) (hconfigured : flow.configured = true) (w₀ w₁ : World)
    {code id username discriminator avatar : String} (remote : String) (h₀ : Stampable w₀.clock)
    (h₁ : Stampable w₁.clock) (hwithin : InTime w₀.clock 900 w₁.clock)
    (hcode : code ≠ "")
    (hvouches : flow.provider.Vouches w₁.provider id username discriminator avatar) :
    ∃ url stateToken loginToken,
      (flow.initiate.run w₀).1 = .ok ⟨.pending, some url, [⟨flow.stateCookie, stateToken, 900⟩]⟩
        ∧ ((flow.callback (some (.text code)) ((Provider.stateOf? url).map .text)
            (some (.text stateToken)) remote).run w₁).1
          = .ok ⟨.authenticated, some "/",
              [.clear flow.stateCookie, ⟨flow.loginCookie, loginToken, 2592000⟩]⟩
        ∧ GoodFrom flow loginToken w₁.clock ⟨id, username, discriminator, avatar⟩
            ⟨id, username, discriminator, pictureOf flow id avatar⟩ := by
  obtain ⟨hsome, hprovider⟩ := Bool.and_eq_true_iff.mp hconfigured
  obtain ⟨sealer, hsealer⟩ := Option.isSome_iff_exists.mp hsome
  let user : Identity := ⟨id, username, discriminator, avatar⟩
  -- the first request seals the state
  obtain ⟨stateToken, hstate⟩ := Seal.exists_seal_stampable sealer (.str (stateAt w₀))
    stateLifetime flow.stateCookie rfl (Nat.zero_le _) (by simp [Json.depth, Json.depthLimit])
    (by decide) h₀
  have hinitiate := Flow.initiate_of_seal hsealer hprovider hstate
  -- the second one opens it and seals the user
  have hopen := Seal.unseal_within rfl h₀ hstate (by decide) (by decide) h₁.lt_utmost
    ((inTime_iff_within h₀.nonneg (by decide)).mp hwithin)
  obtain ⟨loginToken, hlogin⟩ := Seal.exists_seal_stampable sealer user.toJson loginLifetime
    flow.loginCookie (Identity.isBroken_text id username discriminator avatar) (Nat.zero_le _)
    user.depth_toJson_lt (by decide) h₁
  have hcallback := Flow.callback_of_seal remote hsealer hprovider (by simp [hcode]) hopen
    (hvouches.user_run code) hlogin
  refine ⟨_, stateToken, loginToken, hinitiate, ?_, ?_⟩
  · rw [Provider.stateOf?_authorizationUrl]
    exact hcallback
  · obtain ⟨profile, -, hid, -⟩ := hvouches.profile
    rw [← Flow.withAvatar_text]
    exact goodFrom_of_seal hsealer h₁ hlogin (Identity.isAnonymous_text hid.ne_empty)

/-- A user with a number for an id and a picture logs in after ten minutes. -/
theorem login_lifetime_number : ∃ (flow : Flow) (w₀ w₁ : World) (url stateToken loginToken : String),
    flow.configured = true ∧ InTime w₀.clock 900 w₁.clock
      ∧ (flow.initiate.run w₀).1 = .ok ⟨.pending, some url, [⟨flow.stateCookie, stateToken, 900⟩]⟩
      ∧ ((flow.callback (some "code") ((Provider.stateOf? url).map .text)
          (some (.text stateToken)) "::1").run w₁).1
        = .ok ⟨.authenticated, some "/",
            [.clear flow.stateCookie, ⟨flow.loginCookie, loginToken, 2592000⟩]⟩
      ∧ GoodFrom flow loginToken w₁.clock ⟨"42", "ann", "", "a1"⟩
          ⟨"42", "ann", "", "/avatars/42/a1.png"⟩ := by
  obtain ⟨client, hclient, htokenUrl, huserUrl⟩ := Provider.exists_reachable
  obtain ⟨tokenReply, htoken⟩ := Provider.exists_brings ("access_token", .str "t") []
    (by constructor <;> decide)
  obtain ⟨userReply, huser⟩ := Provider.exists_brings ("id", .int 42)
    [("username", .str "ann"), ("discriminator", .null), ("avatar", .str "a1")]
    (by constructor <;> decide)
  have hascii : Provider.Ascii ("t".toList.map Char.toNat) := fun code hcode => by
    revert code
    decide
  have hvouches : client.Vouches ⟨tokenReply, userReply⟩ "42" "ann" "" "a1" :=
    ⟨htokenUrl, huserUrl, ⟨_, "t", htoken, rfl, by decide, hascii⟩,
      ⟨_, huser, .number (n := 42) rfl (by decide), .text rfl,
        .falsy (show _ = some Json.null from rfl) rfl, .text rfl⟩⟩
  let flow : Flow := ⟨some ⟨"secret"⟩, client, "state", "login", "/avatars"⟩
  have hconfigured : flow.configured = true := hclient
  have h₀ : Stampable 1700000000250000 := Instant.stampable_of_lt (by decide) (by decide)
  have h₁ : Stampable 1700000600000000 := Instant.stampable_of_lt (by decide) (by decide)
  have hwithin : InTime 1700000000250000 900 1700000600000000 := by
    rw [InTime, if_pos (by decide)]
    decide
  let w₀ : World := { Store.holding .empty with
    clock := 1700000000250000, provider := ⟨tokenReply, userReply⟩ }
  let w₁ : World := { w₀ with clock := 1700000600000000 }
  obtain ⟨url, stateToken, loginToken, hinitiate, hcallback, hgood⟩ :=
    login_lifetime flow hconfigured w₀ w₁ "::1" h₀ h₁ hwithin
      (by decide : "code" ≠ "") hvouches
  exact ⟨flow, w₀, w₁, url, stateToken, loginToken, hconfigured, hwithin, hinitiate, hcallback, hgood⟩

end Login
end OnAir
