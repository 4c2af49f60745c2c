import OnAir.Proofs.Login.Steps
import OnAir.Proofs.Provider.Foreseen

/-!
# Answers with a token or a user

A token is read from a response of success with an object that holds something under `access_token`,
be it a text or not; a user from one with an object that holds an id, and texts or nothing in the
other fields.

A provider vouches for a user if it answers a code with a token and the token with a profile. How
the documents come, with which headers and coded or not, makes no difference, and neither does what
else they hold.
-/

namespace OnAir

-- -----------------------------------------------------------------------------
-- Records
-- -----------------------------------------------------------------------------

namespace Validation

variable {α β : Type} {fields : Fields} {name : String} {read : Reader α} {default a : α}
  {value : Json}

theorem both_ok {first : Checked α} {second : Checked β} {b : β} :
    first.both second = .ok (a, b) ↔ first = .ok a ∧ second = .ok b := by
  cases first <;> cases second <;> simp [Checked.both]

theorem optional_ok_iff (h : fields.lookup (.text name) = some value) :
    optional fields name read default = .ok a ↔ read value = .ok a := by
  simp only [optional, required, h]
  cases read value <;> simp [complain]

theorem rawText_ok {s : RawText} : rawText value = .ok s ↔ value = .str s := by
  cases value <;> simp [rawText]

end Validation

namespace Login.Identity

open Validation

theorem read_ok_iff {fields : Fields} {id username discriminator avatar : Json}
    {identity : Identity} (hid : fields.lookup (.text "id") = some id)
    (husername : fields.lookup (.text "username") = some username)
    (hdiscriminator : fields.lookup (.text "discriminator") = some discriminator)
    (havatar : fields.lookup (.text "avatar") = some avatar) :
    read fields = .ok identity
      ↔ id = .str identity.id ∧ username = .str identity.username
        ∧ discriminator = .str identity.discriminator ∧ avatar = .str identity.avatar := by
  obtain ⟨_, _, _, _⟩ := identity
  simp only [read, exceptBind_ok, Prod.exists, both_ok, optional_ok_iff hid,
    optional_ok_iff husername, optional_ok_iff hdiscriminator, optional_ok_iff havatar, rawText_ok,
    pure, Except.pure, Except.ok.injEq, mk.injEq]
  constructor
  · rintro ⟨_, _, _, _, ⟨⟨hid, husername⟩, hdiscriminator, havatar⟩, rfl, rfl, rfl, rfl⟩
    exact ⟨hid, husername, hdiscriminator, havatar⟩
  · rintro ⟨hid, husername, hdiscriminator, havatar⟩
    exact ⟨_, _, _, _, ⟨⟨hid, husername⟩, hdiscriminator, havatar⟩, rfl, rfl, rfl, rfl⟩

end Login.Identity

namespace Provider

open Login (Identity)
open Validation (Fields)

-- -----------------------------------------------------------------------------
-- Documents that arrive
-- -----------------------------------------------------------------------------

structure Response.Carries (r content : Response) : Prop where
  headers : r.checkHeaders = .ok ()
  decoded : r.decoded = .ok content
  status : content.status = 200

def Reply.Brings (reply : Reply) (document : Json) : Prop :=
  ∃ r content, reply = .response r ∧ r.Carries content
    ∧ Json.readBytes content.body = .ok document

section
variable {stage : Stage} {endpoint : Url.Endpoint} {request : Request} {r content : Response}
  {document : Json} {w : World}

theorem Response.Carries.location? (h : r.Carries content) : content.location? = none := by
  rw [Response.location?, h.status]
  rfl

theorem receive_carries (h : r.Carries content) (hscheme : endpoint.scheme ≠ []) :
    receive stage endpoint r = .ok content := by
  simp only [receive, h.headers, h.decoded, if_neg hscheme, Except.mapError, bind, Except.bind,
    h.location?, pure, Except.pure]

theorem transmit_carries (hhost : endpoint.checkHost = .ok ()) (hscheme : endpoint.scheme ≠ [])
    (hreply : w.provider.reply stage = .response r) (h : r.Carries content) :
    (transmit stage endpoint request).run w
      = (.ok content, { w with sent := w.sent ++ [request] }) := by
  simp only [transmit, Act.bind_ok, Act.ofExcept_ok, Act.change_ok, Act.look_ok, mapError_ok]
  refine ⟨(), w, ⟨hhost, rfl⟩, (), _, rfl, .response r, _, ⟨?_, rfl⟩, ?_⟩
  · cases stage <;> exact hreply
  · exact Act.ofExcept_ok.mpr ⟨receive_carries h hscheme, rfl⟩

theorem readBody_ok_iff : readBody stage content = .ok document
    ↔ Json.readBytes content.body = .ok document := by
  rw [readBody]
  split <;> simp [*]

theorem readToken_ok_iff {token : Json} : readToken content = .ok token ↔ content.status = 200
    ∧ ∃ document, Json.readBytes content.body = .ok document
      ∧ document.get? "access_token" = some token ∧ token.isTruthy = true := by
  constructor
  · intro h
    rw [readToken] at h
    split at h
    · obtain ⟨_, -, h⟩ := exceptBind_ok.mp h
      cases h
    next hstatus =>
      obtain ⟨document, hbody, h⟩ := exceptBind_ok.mp h
      refine ⟨not_not.mp hstatus, document, readBody_ok_iff.mp hbody, ?_⟩
      split at h
      next value hvalue =>
        split at h
        next htruthy =>
          cases h
          exact ⟨hvalue, htruthy⟩
        next => cases h
      next => cases h
  · rintro ⟨hstatus, document, hbody, htoken, htruthy⟩
    have hgood : ¬content.status ≠ 200 := not_not.mpr hstatus
    simp only [readToken, if_neg hgood, readBody_ok_iff.mpr hbody, htoken, htruthy, if_true, bind,
      Except.bind, pure, Except.pure]

end

-- -----------------------------------------------------------------------------
-- Profiles
-- -----------------------------------------------------------------------------

inductive GivesId (profile : Json) : String → Prop
  | text {id : String} (h : profile.get? "id" = some (.str id)) (hne : id ≠ "") : GivesId profile id
  | number {n : Int} (h : profile.get? "id" = some (.int n)) (hne : n ≠ 0) :
    GivesId profile (String.ofList (Integer.text n))

inductive GivesText (profile : Json) (name : String) : String → Prop
  | text {s : String} (h : profile.get? name = some (.str s)) : GivesText profile name s
  | falsy {value : Json} (h : profile.get? name = some value) (hfalsy : value.isTruthy = false) :
    GivesText profile name ""
  | missing (h : profile.get? name = none) : GivesText profile name ""

/-- What a profile holds in another field, if it is a text that may be broken, or nothing. -/
inductive Holds (profile : Json) (name : String) : RawText → Prop
  | text {s : RawText} (h : profile.get? name = some (.str s)) : Holds profile name s
  | falsy {value : Json} (h : profile.get? name = some value) (hfalsy : value.isTruthy = false) :
    Holds profile name ""
  | missing (h : profile.get? name = none) : Holds profile name ""

/-- The profile is one of this user. The id may be of any kind, but it must count as present. -/
structure ProfileOf (profile : Json) (user : Identity) : Prop where
  id : ∃ value, profile.get? "id" = some value ∧ value.isTruthy = true
    ∧ value.displayed = user.id
  username : Holds profile "username" user.username
  discriminator : Holds profile "discriminator" user.discriminator
  avatar : Holds profile "avatar" user.avatar

section
variable {profile : Json} {name : String} {s : RawText} {user : Identity} {content : Response}

theorem eq_empty_of_falsy (h : ¬(Json.str s).isTruthy = true) : s = "" := by
  simpa [Json.isTruthy, RawText.isEmpty] using h

theorem profileField_eq_str_iff : profileField profile name = .str s ↔ Holds profile name s := by
  rw [profileField]
  constructor
  · intro h
    split at h
    next value hvalue =>
      split at h
      · exact .text (h ▸ hvalue)
      next hfalsy =>
        cases h
        exact .falsy hvalue (Bool.eq_false_iff.mpr hfalsy)
    next hmissing =>
      cases h
      exact .missing hmissing
  · rintro (h | ⟨h, hfalsy⟩ | h) <;> simp only [h]
    · split
      · rfl
      next hempty => rw [eq_empty_of_falsy hempty]
    · simp only [hfalsy, Bool.false_eq_true, if_false]

/-- The record that is made of a profile is an identity exactly if every field but the id holds a
text, or nothing. -/
theorem readRecord_ok_iff {id : Json} :
    Identity.read ((.text "id", .str id.displayed)
        :: ["username", "discriminator", "avatar"].map fun name =>
          (.text name, profileField profile name)) = .ok user
      ↔ id.displayed = user.id ∧ Holds profile "username" user.username
        ∧ Holds profile "discriminator" user.discriminator ∧ Holds profile "avatar" user.avatar := by
  rw [Identity.read_ok_iff rfl rfl rfl rfl, profileField_eq_str_iff, profileField_eq_str_iff,
    profileField_eq_str_iff, Json.str.injEq]

theorem readProfile_ok_iff : readProfile content = .ok user ↔ content.status = 200
    ∧ ∃ profile, Json.readBytes content.body = .ok profile ∧ ProfileOf profile user := by
  constructor
  · intro h
    rw [readProfile] at h
    split at h
    · cases h
    next hstatus =>
      obtain ⟨profile, hbody, h⟩ := exceptBind_ok.mp h
      refine ⟨not_not.mp hstatus, profile, readBody_ok_iff.mp hbody, ?_⟩
      split at h
      next => cases h
      next id hid =>
        split at h
        · cases h
        next htruthy =>
          obtain ⟨hdisplayed, husername, hdiscriminator, havatar⟩ :=
            readRecord_ok_iff.mp (mapError_ok.mp h)
          have hgiven : id.isTruthy = true := by simpa using htruthy
          exact ⟨⟨id, hid, hgiven, hdisplayed⟩, husername, hdiscriminator, havatar⟩
  · rintro ⟨hstatus, profile, hbody, ⟨id, hid, htruthy, hdisplayed⟩, husername, hdiscriminator,
      havatar⟩
    have hgood : ¬content.status ≠ 200 := not_not.mpr hstatus
    have hrecord := readRecord_ok_iff.mpr ⟨hdisplayed, husername, hdiscriminator, havatar⟩
    simp only [readProfile, if_neg hgood, readBody_ok_iff.mpr hbody, bind, Except.bind, hid, htruthy,
      Bool.not_true, Bool.false_eq_true, if_false]
    exact mapError_ok.mpr hrecord

end

section
variable {profile : Json} {name s id username discriminator avatar : String} {content : Response}

theorem isTruthy_str (h : s ≠ "") : (Json.str (.text s)).isTruthy = true := by
  simp [Json.isTruthy, RawText.isEmpty, h]

theorem GivesText.holds (h : GivesText profile name s) : Holds profile name s := by
  cases h with
  | text h => exact .text h
  | falsy h hfalsy => exact .falsy h hfalsy
  | missing h => exact .missing h

theorem GivesId.get? (h : GivesId profile id) :
    ∃ value, profile.get? "id" = some value ∧ value.isTruthy = true
      ∧ value.displayed = .text id := by
  cases h with
  | text h hne => exact ⟨_, h, isTruthy_str hne, rfl⟩
  | number h hne => exact ⟨_, h, decide_eq_true hne, rfl⟩

theorem integerText_ne_nil (n : Int) : Integer.text n ≠ [] := by
  rw [Integer.text]
  split
  · exact List.cons_ne_nil _ _
  · exact Nat.toDigits_ne_nil

theorem GivesId.ne_empty (h : GivesId profile id) : id ≠ "" := by
  cases h with
  | text h hne => exact hne
  | number h hne => exact mt String.ofList_eq_empty_iff.mp (integerText_ne_nil _)

theorem readProfile_ok (hstatus : content.status = 200)
    (hbody : Json.readBytes content.body = .ok profile) (hid : GivesId profile id)
    (husername : GivesText profile "username" username)
    (hdiscriminator : GivesText profile "discriminator" discriminator)
    (havatar : GivesText profile "avatar" avatar) :
    readProfile content = .ok ⟨id, username, discriminator, avatar⟩ :=
  readProfile_ok_iff.mpr ⟨hstatus, profile, hbody, hid.get?, husername.holds, hdiscriminator.holds,
    havatar.holds⟩

end

-- -----------------------------------------------------------------------------
-- Users
-- -----------------------------------------------------------------------------

/-- The provider of a client vouches for a user: its endpoints can be reached, it answers a code with
a token in ASCII, and the token with the user's profile. -/
structure Client.Vouches (client : Client) (script : Script)
    (id username discriminator avatar : String) : Prop where
  tokenUrl : Reachable client.tokenUrl
  userUrl : Reachable client.userUrl
  token : ∃ document token, script.token.Brings document
    ∧ document.get? "access_token" = some (.str (.text token)) ∧ token ≠ ""
    ∧ Ascii (token.toList.map Char.toNat)
  profile : ∃ profile, script.user.Brings profile ∧ GivesId profile id
    ∧ GivesText profile "username" username ∧ GivesText profile "discriminator" discriminator
    ∧ GivesText profile "avatar" avatar

section
variable {client : Client} {w : World} {token : Json}

theorem exchange_run {r content : Response} (hurl : Reachable client.tokenUrl)
    (hreply : w.provider.token = .response r) (h : r.Carries content)
    (htoken : readToken content = .ok token) (code : String) :
    ∃ v, (client.exchange code).run w = (.ok token, v) ∧ v.provider = w.provider := by
  obtain ⟨endpoint, hread, hhost, hscheme⟩ := hurl
  simp only [Client.exchange, Act.bind_ok, Act.ofExcept_ok, Act.note_ok, Act.pure_ok, mapError_ok]
  exact ⟨_, ⟨_, _, ⟨hread, rfl⟩, code, _, ⟨rfl, rfl⟩, _, _, transmit_carries hhost hscheme hreply h,
    _, _, ⟨htoken, rfl⟩, (), _, rfl, rfl, rfl⟩, rfl⟩

theorem profile_run {r content : Response} {user : Identity} {bearer : String}
    (hurl : Reachable client.userUrl) (hreply : w.provider.user = .response r)
    (h : r.Carries content) (hbearer : bearerAuthorization token = .ok bearer)
    (huser : readProfile content = .ok user) :
    ∃ v, (client.profile token).run w = (.ok user, v) := by
  obtain ⟨endpoint, hread, hhost, hscheme⟩ := hurl
  simp only [Client.profile, Act.bind_ok, Act.ofExcept_ok, mapError_ok]
  exact ⟨_, _, _, ⟨hread, rfl⟩, _, _, ⟨hbearer, rfl⟩, _, _,
    transmit_carries hhost hscheme hreply h, huser, rfl⟩

theorem Client.Vouches.user_run {id username discriminator avatar : String}
    (h : client.Vouches w.provider id username discriminator avatar) (code : String) :
    ((client.user code).run w).1 = .ok ⟨id, username, discriminator, avatar⟩ := by
  obtain ⟨document, token, ⟨r, content, hr, hcarries, hbody⟩, htoken, hne, hascii⟩ := h.token
  obtain ⟨profile, ⟨r', content', hr', hcarries', hbody'⟩, hid, husername, hdiscriminator,
    havatar⟩ := h.profile
  have hread := readToken_ok_iff.mpr ⟨hcarries.status, document, hbody, htoken, isTruthy_str hne⟩
  obtain ⟨bearer, hbearer⟩ : ∃ bearer, bearerAuthorization (.str (.text token)) = .ok bearer :=
    bearerAuthorization_ok hascii
  obtain ⟨v, hexchange, hv⟩ := exchange_run h.tokenUrl hr hcarries hread code
  obtain ⟨w', hprofile⟩ := profile_run (w := v) h.userUrl (by rw [hv, hr']) hcarries' hbearer
    (readProfile_ok hcarries'.status hbody' hid husername hdiscriminator havatar)
  have hrun : (client.user code).run w = (.ok ⟨id, username, discriminator, avatar⟩, w') :=
    Act.bind_ok.mpr ⟨_, v, hexchange, hprofile⟩
  rw [hrun]

end
end Provider
end OnAir
