import OnAir.App.Serve
import OnAir.Proofs.Bytes.Hex
import OnAir.Proofs.Ingest.Beside
import OnAir.Proofs.Ingest.Verdict
import OnAir.Proofs.Json.RoundTrip
import OnAir.Proofs.Store.Beside

/-!
# What the media engine is told about a publisher

A request of the media engine that hands on the credentials of a publisher is answered as the attempt
itself ends: but for the lines about the request the world is left as the attempt leaves it, and the
response tells no more than its result.
-/

namespace OnAir

open Act (Alike run run_bind run_mapError)
open Channel (Authorization)
open Http (Body Request Response)
open Ingest (Attempt Decided)
open Store (Beside Calm ChannelRow)
open Submission (ChallengeAttempt PublishAttempt)
open Validation (Fields Reader)

-- -----------------------------------------------------------------------------
-- Fields
-- -----------------------------------------------------------------------------

namespace Validation

variable {α : Type} {fields : Fields} {name : String} {read : Reader α} {default a : α} {value : Json}

theorem required_ok (h : fields.lookup (.text name) = some value) (hread : read value = .ok a) :
    required fields name read = .ok a := by
  simp only [required, h, hread]

theorem optional_ok (h : fields.lookup (.text name) = some value) (hread : read value = .ok a) :
    optional fields name read default = .ok a := by
  simp only [optional, h, required_ok h hread]

theorem optional_rawText {s default : RawText} (h : fields.lookup (.text name) = some (.str s)) :
    optional fields name rawText default = .ok s :=
  optional_ok h rfl

theorem optional_nullable {s : RawText} {default : Option RawText}
    (h : fields.lookup (.text name) = some (.str s)) :
    optional fields name (nullable rawText) default = .ok (some s) :=
  optional_ok h rfl

theorem optional_absent (h : fields.lookup (.text name) = none) :
    optional fields name read default = .ok default := by
  simp only [optional, h]

end Validation

namespace Submission

open Validation (optional_absent optional_nullable optional_rawText required_ok)

variable {fields : Fields} {name given address : RawText}

theorem PublishAttempt.isBlank_some {s : RawText} (h : s ≠ .text "") : isBlank (some s) = false := by
  simp [isBlank, RawText.isEmpty, h]

theorem PublishAttempt.read_key (hurl : fields.lookup (.text "url") = none)
    (hname : fields.lookup (.text "name") = some (.str name))
    (hkey : fields.lookup (.text "key") = some (.str given)) (hnamed : name ≠ .text "") :
    PublishAttempt.read fields = .ok ⟨none, some name, given⟩ := by
  rw [PublishAttempt.read, optional_absent hurl, optional_nullable hname,
    optional_rawText hkey]
  change (if isBlank none ∧ isBlank (some name) then _ else _) = _
  rw [if_neg (by simp [isBlank_some hnamed])]
  rfl

theorem PublishAttempt.read_url (hurl : fields.lookup (.text "url") = some (.str address))
    (hname : fields.lookup (.text "name") = none) (hkey : fields.lookup (.text "key") = none)
    (hgiven : address ≠ .text "") :
    PublishAttempt.read fields = .ok ⟨some address, none, .text ""⟩ := by
  rw [PublishAttempt.read, optional_nullable hurl, optional_absent hname, optional_absent hkey]
  change (if isBlank (some address) ∧ isBlank none then _ else _) = _
  rw [if_neg (by simp [isBlank_some hgiven])]
  rfl

theorem textFrom_ok {s : String} (h : s ≠ "") : Validation.textFrom 1 (.str s) = .ok s := by
  have hlength : ¬s.length < 1 := by
    rwa [Nat.lt_one_iff, String.length_eq_zero_iff]
  change (if s.length < 1 then _ else _) = _
  rw [if_neg hlength]
  rfl

theorem hexBytes_ok {s : String} {bytes : Bytes} (h : Text.lower s.toList = Hex.encode bytes) :
    Validation.hexBytes (.str s) = .ok bytes := by
  simp only [Validation.hexBytes, RawText.text?, Option.bind_some, Hex.decode?_of_lower h]

theorem ChallengeAttempt.read_hex {ftlId nonceText digestText : String} {nonce digest : Bytes}
    (hid : fields.lookup (.text "channel_id") = some (.str ftlId)) (hgiven : ftlId ≠ "")
    (hnonceField : fields.lookup (.text "nonce") = some (.str nonceText))
    (hnonce : Text.lower nonceText.toList = Hex.encode nonce)
    (hdigestField : fields.lookup (.text "digest") = some (.str digestText))
    (hdigest : Text.lower digestText.toList = Hex.encode digest) :
    ChallengeAttempt.read fields = .ok ⟨ftlId, nonce, digest⟩ := by
  rw [ChallengeAttempt.read, required_ok hid (textFrom_ok hgiven),
    required_ok hnonceField (hexBytes_ok hnonce), required_ok hdigestField (hexBytes_ok hdigest)]
  rfl

end Submission

namespace App

def ended (app : App) : Except Ingest.Error Authorization → Except RequestError Response
  | .ok auth => .ok (app.success auth.toJson)
  | .error e => .error (.ofIngest e)

def told (app : App) (request : Request) (result : Except Ingest.Error Authorization) : Response :=
  app.answer request (app.ended result)

/-- The media engine is told how an attempt ended, and so is the log. Nothing else happens. -/
def concluded (app : App) (request : Request)
    (attempted : Except Ingest.Error Authorization × World) : Response × World :=
  let (result, w) := attempted
  (app.told request result, w.noting (app.report request w.runtime.traceback (app.ended result)))

/-- The media engine, known by its key, posts a document to a path. -/
structure Posts (app : App) (request : Request) (path : String) (fields : Fields) : Prop where
  method : request.method = "POST"
  path : request.path = path
  key : app.showsKey request = true
  body : Body.ofRequest request = .ok (.document (.obj fields))

/-- The media engine hands on an attempt: a name and a key, a URL instead of both, or the answer to a
challenge with its bytes in hexadecimal digits of any case. -/
inductive HandsOn (app : App) (request : Request) : Attempt → Prop
  | key {fields : Fields} {name given : RawText} (h : app.Posts request "/ingest/rtmp" fields)
    (hurl : fields.lookup (.text "url") = none)
    (hname : fields.lookup (.text "name") = some (.str name))
    (hkey : fields.lookup (.text "key") = some (.str given)) (hnamed : name ≠ .text "") :
    HandsOn app request (.key name given)
  | url {fields : Fields} {address : RawText} (h : app.Posts request "/ingest/rtmp" fields)
    (hurl : fields.lookup (.text "url") = some (.str address))
    (hname : fields.lookup (.text "name") = none) (hkey : fields.lookup (.text "key") = none)
    (hgiven : address ≠ .text "") : HandsOn app request (.url address)
  | challenge {fields : Fields} {ftlId nonceText digestText : String} {nonce digest : Bytes}
    (h : app.Posts request "/ingest/ftl" fields)
    (hid : fields.lookup (.text "channel_id") = some (.str ftlId)) (hgiven : ftlId ≠ "")
    (hnonceField : fields.lookup (.text "nonce") = some (.str nonceText))
    (hnonce : Text.lower nonceText.toList = Hex.encode nonce)
    (hdigestField : fields.lookup (.text "digest") = some (.str digestText))
    (hdigest : Text.lower digestText.toList = Hex.encode digest) :
    HandsOn app request (.challenge ftlId nonce digest)

variable {app : App} {request : Request}

theorem Posts.submitted_run {α : Type} {path : String} {fields : Fields} {record : α}
    {reader : Fields → Validation.Checked α} {act : Unit → α → Act RequestError Response}
    (h : app.Posts request path fields) (hread : reader fields = .ok record) (w : World) :
    run (submitted request (app.engine request) reader act) w = run (act () record) w := by
  have hgate : run (app.engine request) w = (.ok (), w) := by
    rw [engine, h.key]
    rfl
  rw [submitted, h.body]
  change run (app.engine request >>= _) w = _
  rw [run_bind, hgate]
  change run (Act.ofExcept (Except.mapError _ (Except.mapError _ (reader fields))) >>= _) w = _
  rw [hread]
  rfl

theorem serve_attempt {e : Http.Endpoint} {attempt : Act Ingest.Error Authorization}
    (hdest : Http.destination request.method request.path = .endpoint e)
    (hhandle : ∀ w, run (app.handle e request) w
      = run (attempt.mapError .ofIngest >>= fun auth => pure (app.success auth.toJson)) w)
    (w : World) :
    app.serve request w = app.concluded request (run attempt (w.noting [request.arrival])) := by
  have hrespond : app.respond request = app.handle e request := by
    unfold respond
    rw [hdest]
  rcases hrun : run attempt (w.noting [request.arrival]) with ⟨result, w'⟩
  have hended : run (app.respond request) (w.noting [request.arrival])
      = (app.ended result, w') := by
    rw [hrespond, hhandle, run_bind, run_mapError, hrun]
    cases result <;> rfl
  exact serve_of_run hended

/-- A request that hands on an attempt is answered as the attempt ends, and does nothing else. -/
theorem HandsOn.serve_eq {attempt : Attempt} (h : app.HandsOn request attempt) (w : World) :
    app.serve request w
      = app.concluded request (run attempt.act (w.noting [request.arrival])) := by
  cases h with
  | key h hurl hname hkey hnamed =>
    refine serve_attempt (e := .admitPublisher) ?_ (fun w => ?_) w
    · rw [h.method, h.path]; decide +kernel
    · exact h.submitted_run (PublishAttempt.read_key hurl hname hkey hnamed) w
  | @url _ address h hurl hname hkey hgiven =>
    refine serve_attempt (e := .admitPublisher) ?_ (fun w => ?_) w
    · rw [h.method, h.path]; decide +kernel
    · refine (h.submitted_run (PublishAttempt.read_url hurl hname hkey hgiven) w).trans ?_
      change run (Act.mapError RequestError.ofIngest (if address.isEmpty then _ else _) >>= _) w = _
      rw [if_neg (by simp [RawText.isEmpty, hgiven])]
      rfl
  | challenge h hid hgiven hnonceField hnonce hdigestField hdigest =>
    refine serve_attempt (e := .admitChallenger) ?_ (fun w => ?_) w
    · rw [h.method, h.path]; decide +kernel
    · exact h.submitted_run
        (ChallengeAttempt.read_hex hid hgiven hnonceField hnonce hdigestField hdigest) w

theorem HandsOn.answer_eq {attempt : Attempt} (h : app.HandsOn request attempt) (w : World) :
    (app.serve request w).1 = app.told request (run attempt.act w).1 := by
  have halike : Alike (Beside Eq) attempt.act :=
    attempt.act_alike (Beside.side Eq) (.eq _)
  have hbeside : Beside Eq (w.noting [request.arrival]) w :=
    (Beside.of_tables w rfl).setLog (w.noting [request.arrival]).log w.log
  rw [h.serve_eq]
  exact congrArg (app.told request) (halike hbeside).1

-- -----------------------------------------------------------------------------
-- Decisions
-- -----------------------------------------------------------------------------

theorem exists_keyed : ∃ app : App, app.settings.internalApiKey ≠ "" := by
  let settings : Settings := ⟨false, "", 0, 1, "", "", "", "", "", "", [], "", false, "state",
    "login", "", "", "", "", 1, .ofInt 5, "key"⟩
  exact ⟨⟨settings, "", .make "" 1 (.ofInt 5), ⟨none, ⟨"", "", "", "", "", "", []⟩, "", "", ""⟩⟩,
    by decide⟩

def posting (app : App) (path : String) (document : Json) : Request :=
  let headers := [("x-api-key", app.settings.internalApiKey), ("content-type", "application/json")]
  ⟨"", "POST", path, [], headers, Utf8.encode (Json.text Json.tokenLayout document), none, "", "",
    ""⟩

theorem posts_posting (app : App) (path : String) {field : RawText × Json} {rest : Fields}
    (hkey : app.settings.internalApiKey ≠ "")
    (h : Json.Readable Json.depthLimit (.obj (field :: rest))) :
    app.Posts (app.posting path (.obj (field :: rest))) path (field :: rest) := by
  let request := app.posting path (.obj (field :: rest))
  have hbody : Json.readBytes request.body = .ok (.obj (field :: rest)) := Json.readBytes_obj h
  have hnonempty : request.body.isEmpty = false := by
    obtain ⟨tail, htext⟩ := Json.text_obj Json.tokenLayout field rest
    change (Utf8.encode (Json.text Json.tokenLayout _)).isEmpty = false
    rw [htext]
    rfl
  refine ⟨rfl, rfl, ?_, ?_⟩
  · have hshown : (request.header? "x-api-key").getD "" = app.settings.internalApiKey := rfl
    rw [showsKey, hshown, decide_eq_true hkey, decide_eq_true rfl]
    rfl
  · have htype : (request.header? "content-type").getD "" = "application/json" := rfl
    have hkind : Http.isDocumentType "application/json" = true := by decide +kernel
    rw [Body.ofRequest, htype, hkind, hnonempty, hbody]
    rfl

end App

/-- Over stores that raise nothing of their own, whoever wants to publish is let in exactly if the
attempt fits a channel. Attempts that fit none end alike, whatever they are and over whatever stores:
who is refused learns nothing. Attempts with texts that no channel could have are not let in either,
but their end tells what they are. A request of the media engine is answered as its attempt ends. -/
theorem publishers_decided {w v : World} (attempt other : Attempt) (hw : Calm w) (hv : Calm v)
    (hwkeys : w.tables.Findable) (hvkeys : v.tables.Findable) :
    (attempt.Readable → Decided w.tables attempt.Fits (run attempt.act w).1)
      ∧ (attempt.Readable → other.Readable → (∀ row ∈ w.tables.channels, ¬attempt.Fits row) →
        (∀ row ∈ v.tables.channels, ¬other.Fits row) →
          (run attempt.act w).1 = (run other.act v).1)
      ∧ (¬attempt.Readable → ∃ e, e.Stray ∧ (run attempt.act w).1 = .error e)
      ∧ (∀ (app : App) (request : Request), app.HandsOn request attempt →
        app.serve request w = app.concluded request (run attempt.act (w.noting [request.arrival]))
          ∧ (app.serve request w).1 = app.told request (run attempt.act w).1)
      ∧ ∀ (app : App) (request : Request), app.told request (.error Ingest.refusal)
        = (app.refusal request 403 "E_USER_NOT_FOUND" "user not found or wrong key").guarded := by
  have hends : attempt.Readable → Decided w.tables attempt.Fits (run attempt.act w).1 :=
    Attempt.decided hw hwkeys
  refine ⟨hends, ?_, ?_, fun app request h => ⟨h.serve_eq w, h.answer_eq w⟩, fun app request => rfl⟩
  · intro h hother hnone hnone'
    have hends' := Attempt.decided hv hvkeys hother
    rw [(hends h).refused_of hnone, hends'.refused_of hnone']
  · intro h
    obtain ⟨e, he, hyields⟩ := Attempt.strayed hw h
    exact ⟨e, he, hyields.result_eq⟩

/-- The key of a channel is handed on in a request, and an answer to a challenge that no channel of
another store was given is refused as a wrong key is. -/
theorem publishers_decided_key : ∃ (w v : World) (app : App) (request : Request),
    Decided w.tables (Attempt.key "show" "k").Fits (.ok ⟨"ann", "show", true⟩)
      ∧ (app.serve request w).1 = app.told request (.ok ⟨"ann", "show", true⟩)
      ∧ (run (Ingest.byKey "show" "wrong") w).1 = (run (Ingest.byChallenge "7" [] []) v).1 := by
  let row : ChannelRow := ⟨"ann", "show", "k", some "7", true⟩
  let w := Store.holding ⟨[⟨"ann", true⟩], [row], []⟩
  let v := Store.holding .empty
  have hw : Calm w := Store.calm_holding _
  have hv : Calm v := Store.calm_holding _
  have hwkeys : w.tables.Findable := by constructor <;> decide
  have hvkeys : v.tables.Findable := by constructor <;> decide
  have hend : (run (Attempt.key "show" "k").act w).1 = .ok ⟨"ann", "show", true⟩ := by
    decide +kernel
  obtain ⟨app, hkeyed⟩ := App.exists_keyed
  have hreadable : Json.Readable Json.depthLimit
      (.obj [(.text "name", .str "show"), (.text "key", .str "k")]) := by
    constructor <;> decide
  have hposts := app.posts_posting "/ingest/rtmp" hkeyed hreadable
  obtain ⟨hdecided, -, -, hserve, -⟩ := publishers_decided (.key "show" "k") (.challenge "7" [] [])
    hw hv hwkeys hvkeys
  obtain ⟨-, halike, -, -, -⟩ := publishers_decided (.key "show" "wrong")
    (.challenge "7" [] []) hw hv hwkeys hvkeys
  refine ⟨w, v, app, _, ?_, (hserve app _ (.key hposts rfl rfl rfl (by decide))).2.trans ?_, ?_⟩
  · rw [← hend]
    exact hdecided ⟨rfl, "k", rfl⟩
  · rw [hend]
  · refine halike ⟨rfl, "wrong", rfl⟩ rfl (fun other hother hfits => ?_) nofun
    cases List.mem_singleton.mp hother
    exact absurd hfits.2 (by decide)

/-- Not all attempts that fit no channel end alike: a key with half of a surrogate pair is no text, and
the comparison cannot be made. -/
theorem broken_key_told_apart : ¬∀ (w : World) (attempt : Attempt), Calm w → w.tables.Findable →
    (∀ row ∈ w.tables.channels, ¬attempt.Fits row) →
      (run attempt.act w).1 = .error Ingest.refusal := by
  intro hclaim
  have hend := hclaim (Store.holding .empty) (.key "show" (.broken [0xd800]))
    (Store.calm_holding _) (by constructor <;> decide) nofun
  have hbroken : (run (Attempt.key "show" (.broken [0xd800])).act (Store.holding .empty)).1
      = .error (.surrogate ⟨[0xd800]⟩) := by
    decide +kernel
  cases hbroken.symm.trans hend

end OnAir
