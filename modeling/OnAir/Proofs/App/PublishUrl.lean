import OnAir.Proofs.App.Publishers
import OnAir.Proofs.Url.Publish

/-!
# Publishing to a URL

The URL that an owner is shown for a channel holds its name and its secret, whatever these are, so it
lets in whoever the name and the secret let in. Any other URL is refused like a wrong key, unless it
cannot be split or names what no store can look for.
-/

namespace OnAir

open Act (run)
open Channel (Authorization Definition Identity publishName)
open Http (Request)
open Ingest (Attempt Decided Error authorization plainCredentials refusal)
open Store (Calm ChannelRow Tables)

-- -----------------------------------------------------------------------------
-- Traces
-- -----------------------------------------------------------------------------

/-- Two requests show the same in the log and in whatever an answer says of a request. -/
structure Http.Request.SameTraces (request other : Request) : Prop where
  method : request.method = other.method
  path : request.path = other.path
  id : request.id = other.id
  reference : request.reference = other.reference
  duration : request.duration = other.duration
  remote : request.remote = other.remote

namespace Http.Request.SameTraces

variable {request other : Request} (h : request.SameTraces other)
include h

theorem purpose_eq : request.purpose = other.purpose := by
  rw [purpose, purpose, shownPath, shownPath, h.method, h.path]

theorem arrival_eq : request.arrival = other.arrival := by
  rw [arrival, arrival, h.id, h.purpose_eq]

theorem departure_eq (status : Nat) : request.departure status = other.departure status := by
  rw [departure, departure, h.id, h.purpose_eq, h.duration]

theorem apology_eq : App.apology request = App.apology other := by
  unfold App.apology
  rw [h.id]

theorem answerError_eq (app : App) (e : RequestError) :
    app.answerError request e = app.answerError other e := by
  have hrefusal (status : Nat) (code message : String) :
      app.refusal request status code message = app.refusal other status code message := by
    rw [App.refusal, App.refusal, h.reference]
  cases e with
  | failure f => exact hrefusal _ _ _
  | invalid complaints => exact hrefusal _ _ _
  | unreadable => rfl
  | unforeseen u =>
    rw [App.answerError, App.answerError, h.apology_eq]
    exact hrefusal _ _ _

theorem errorLines_eq (traceback : Unforeseen → String) (e : RequestError) :
    App.errorLines request traceback e = App.errorLines other traceback e := by
  have hshown : request.shownPath = other.shownPath := by rw [shownPath, shownPath, h.path]
  have hrefusal (code message caller : String) :
      App.refusalLine request code message caller = App.refusalLine other code message caller := by
    rw [App.refusalLine, App.refusalLine, h.reference]
  cases e with
  | failure f =>
    rw [App.errorLines, App.errorLines, App.failureLine, App.failureLine, h.reference, h.remote,
      hshown]
  | invalid complaints => rw [App.errorLines, App.errorLines, hrefusal, hshown, h.method]
  | unreadable => rfl
  | unforeseen u =>
    rw [App.errorLines, App.errorLines, App.unforeseenLine, App.unforeseenLine, hrefusal,
      h.apology_eq, h.id, h.duration, h.purpose_eq]

theorem concluded_eq (app : App) (attempted : Except Ingest.Error Authorization × World) :
    app.concluded request attempted = app.concluded other attempted := by
  obtain ⟨e | auth, w⟩ := attempted
  · simp only [App.concluded, App.told, App.ended, App.answer, App.report, h.answerError_eq,
      h.errorLines_eq, h.departure_eq]
  · simp only [App.concluded, App.told, App.ended, App.answer, App.report, h.departure_eq]

end Http.Request.SameTraces

namespace Ingest

-- -----------------------------------------------------------------------------
-- Shown URLs
-- -----------------------------------------------------------------------------

theorem plainCredentials_publish {base name : String} (secret : String)
    (hbase : Url.IsBase base.toList) (hname : name ≠ "") :
    plainCredentials (base ++ "/" ++ publishName name secret) = .ok (name, secret) := by
  have htext : (base ++ "/" ++ publishName name secret).toList = base.toList
      ++ '/' :: ((Url.segment name).toList ++ '?' :: Url.Form.encode [("key", secret)]) := by
    simp [publishName]
  obtain ⟨parts, hsplit, hsegment, hquery⟩ := Url.split_publish hbase
    (fun _ hc => Url.isPlain_of_mem_segment hc) (Url.segment_toList_ne_nil hname)
    (Url.Form.visible_encode [("key", secret)])
  have hkey : ((Url.Form.decode false parts.query).lookup "key").getD "" = secret := by
    rw [hquery, Url.Form.decode_encode]
    by_cases hblank : secret = "" <;> simp [hblank]
  rw [plainCredentials, htext, hsplit]
  change Except.ok (String.ofList (Url.unquote (Url.lastSegment parts.path)), _) = _
  rw [hsegment, Url.unquote_segment, hkey, String.ofList_toList]

theorem credentials_text {url name key : String} :
    credentials (.text url) = .ok (.text name, .text key)
      ↔ plainCredentials url = .ok (name, key) := by
  rw [credentials]
  cases plainCredentials url with
  | error e => exact ⟨nofun, nofun⟩
  | ok pair =>
    refine ⟨fun h => ?_, fun h => ?_⟩
    · cases h
      rfl
    · cases h
      rfl

theorem byUrl_publish {base name : String} (secret : String) (hbase : Url.IsBase base.toList)
    (hname : name ≠ "") :
    byUrl (.text (base ++ "/" ++ publishName name secret)) = byKey name secret :=
  byUrl_eq (credentials_text.mpr (plainCredentials_publish secret hbase hname))

end Ingest

def Channel.Definition.url (d : Definition) : String :=
  d.publishDir ++ "/" ++ d.publishName

/-- The URL that is shown for a channel lets in whoever its name and its secret let in, in whatever
world. So over a store with the channel it lets a publisher in; a name with a zero character is in no
store. Requests with the one and the other are told the same, and do the same to the world, but for
what names the request. -/
theorem shown_url_admits (identity : Identity) {base : String} (hbase : Url.IsBase base.toList)
    (hname : identity.name ≠ "") :
    (∀ w, run (Ingest.byUrl (Definition.ofIdentity identity base).url) w
        = run (Ingest.byKey identity.name identity.secret) w)
      ∧ (∀ w row, Calm w → w.tables.Findable → row ∈ w.tables.channels →
        Channel.Registry.identityOf row = identity → '\x00' ∉ identity.name.toList →
          (run (Ingest.byUrl (Definition.ofIdentity identity base).url) w).1
            = .ok (authorization w.tables row))
      ∧ ∀ (app : App) (request other : Request),
        app.HandsOn request (.url (Definition.ofIdentity identity base).url) →
        app.HandsOn other (.key identity.name identity.secret) → ∀ w,
          (app.serve request w).1
              = app.told request (run (Ingest.byKey identity.name identity.secret) w).1
            ∧ (app.serve other w).1
              = app.told other (run (Ingest.byKey identity.name identity.secret) w).1
            ∧ (request.SameTraces other → app.serve request w = app.serve other w) := by
  have hsame : Ingest.byUrl (Definition.ofIdentity identity base).url
      = Ingest.byKey identity.name identity.secret :=
    Ingest.byUrl_publish identity.secret hbase hname
  refine ⟨fun w => by rw [hsame], fun w row hw hkeys hrow hidentity hzero => ?_,
    fun app request other hrequest hother w => ⟨?_, hother.answer_eq w, fun htraces => ?_⟩⟩
  · have hreadable : (Attempt.key identity.name identity.secret).Readable :=
      ⟨Store.checkStorable_text.mpr hzero, _, rfl⟩
    have hfits : (Attempt.key identity.name identity.secret).Fits row := by
      rw [← hidentity]
      exact ⟨rfl, rfl⟩
    rw [hsame]
    exact (Attempt.decided hw hkeys hreadable).admitted_of hkeys hrow hfits
  · rw [hrequest.answer_eq, Attempt.act, hsame]
  · rw [hrequest.serve_eq, hother.serve_eq, Attempt.act, Attempt.act, hsame,
      htraces.arrival_eq, htraces.concluded_eq]

/-- Delimiters, blanks and letters beyond ASCII in the name and in the secret make no difference. -/
theorem shown_url_admits_delimiters : ∃ (identity : Identity) (base : String) (w : World) (app : App)
    (request other : Request), identity.name = "a/b?c #%" ∧ identity.secret = "&k=+é"
      ∧ run (Ingest.byUrl (Definition.ofIdentity identity base).url) w
        = run (Ingest.byKey identity.name identity.secret) w
      ∧ (run (Ingest.byUrl (Definition.ofIdentity identity base).url) w).1
        = .ok ⟨"ann", "a/b?c #%", true⟩
      ∧ app.serve request w = app.serve other w := by
  let identity : Identity := ⟨"ann", "a/b?c #%", "&k=+é", none, true⟩
  let base := "rtmp://ingest.test/live/"
  let row : ChannelRow := ⟨"ann", "a/b?c #%", "&k=+é", none, true⟩
  let w := Store.holding ⟨[⟨"ann", true⟩], [row], []⟩
  obtain ⟨app, hkeyed⟩ := App.exists_keyed
  have hurl : Json.Readable Json.depthLimit
      (.obj [(.text "url", .str (Definition.ofIdentity identity base).url)]) := by
    constructor <;> decide
  have hkey : Json.Readable Json.depthLimit
      (.obj [(.text "name", .str identity.name), (.text "key", .str identity.secret)]) := by
    constructor <;> decide
  have hrequest := app.posts_posting "/ingest/rtmp" hkeyed hurl
  have hother := app.posts_posting "/ingest/rtmp" hkeyed hkey
  obtain ⟨hsame, hadmits, hserve⟩ := shown_url_admits identity Url.isBase_live (by decide)
  refine ⟨identity, base, w, app, _, _, rfl, rfl, hsame w, ?_,
    (hserve app _ _ (.url hrequest rfl rfl rfl (by decide)) (.key hother rfl rfl rfl (by decide))
      w).2.2 ⟨rfl, rfl, rfl, rfl, rfl, rfl⟩⟩
  exact hadmits w row (Store.calm_holding _) (by constructor <;> decide) List.mem_cons_self rfl
    (by decide)

namespace Ingest

-- -----------------------------------------------------------------------------
-- Any URL
-- -----------------------------------------------------------------------------

/-- How an attempt by a URL ends, with the status that tells of it. -/
inductive UrlEnd (t : Tables) (url : String) : Except Error Authorization → Nat → Prop
  | admitted {row : ChannelRow} (hrow : row ∈ t.channels)
    (hfits : plainCredentials url = .ok (row.name, row.secret)) :
    UrlEnd t url (.ok (authorization t row)) 200
  | refused (hnone : ∀ row ∈ t.channels, plainCredentials url ≠ .ok (row.name, row.secret)) :
    UrlEnd t url (.error refusal) 403
  | unsplit {e : Url.SplitError} (he : plainCredentials url = .error e)
    (hauthority : ¬Url.IsOrdinary (Url.authority url.toList)) : UrlEnd t url (.error (.url e)) 500
  | outage {name key : String} (hnamed : plainCredentials url = .ok (name, key))
    (hzero : '\x00' ∈ name.toList) : UrlEnd t url (.error (.service (.failure .store))) 500

variable {w : World} {url : String}

theorem UrlEnd.status_eq {t : Tables} {result : Except Error Authorization} {status : Nat}
    (h : UrlEnd t url result status) (app : App) (request : Request) :
    (app.told request result).status = status := by
  cases h <;> rfl

theorem UrlEnd.let_in_or_refused {t : Tables} {result : Except Error Authorization} {status : Nat}
    (h : UrlEnd t url result status) (hordinary : Url.IsOrdinary (Url.authority url.toList))
    (hnames : ∀ name key, plainCredentials url = .ok (name, key) → '\x00' ∉ name.toList) :
    status = 200 ∨ status = 403 := by
  cases h with
  | admitted => exact .inl rfl
  | refused => exact .inr rfl
  | unsplit _ hauthority => exact absurd hordinary hauthority
  | outage hnamed hzero => exact absurd hzero (hnames _ _ hnamed)

theorem not_ordinary {e : Url.SplitError} (h : plainCredentials url = .error e) :
    ¬Url.IsOrdinary (Url.authority url.toList) := by
  intro hordinary
  rw [plainCredentials, Url.split_ordinary hordinary] at h
  cases h

theorem exists_urlEnd (hw : Calm w) (hkeys : w.tables.Findable) (url : String) :
    ∃ status, UrlEnd w.tables url (run (byUrl url) w).1 status := by
  cases hplain : plainCredentials url with
  | error e =>
    have hsplit : credentials (.text url) = .error e := by
      rw [credentials, hplain]
      rfl
    rw [byUrl_error hsplit]
    exact ⟨500, .unsplit hplain (not_ordinary hplain)⟩
  | ok pair =>
    obtain ⟨name, key⟩ := pair
    by_cases hzero : '\x00' ∈ name.toList
    · have hlook := lookUp_zero .name hw (Store.zero_mem_codes.mpr hzero)
      have hend : Store.Yields (byKey name key) w _ w.tables := hlook.bind_error
      rw [byUrl_eq (credentials_text.mpr hplain), hend.result_eq]
      exact ⟨500, .outage hplain hzero⟩
    · have hreadable : (Attempt.url url).Readable :=
        ⟨_, _, credentials_text.mpr hplain, Store.checkStorable_text.mpr hzero, _, rfl⟩
      have hdecided := Attempt.decided hw hkeys hreadable
      change Decided w.tables _ (run (byUrl url) w).1 at hdecided
      generalize (run (byUrl url) w).1 = result at hdecided ⊢
      cases hdecided with
      | admitted hrow hfits => exact ⟨200, .admitted hrow (credentials_text.mp hfits)⟩
      | refused hnone =>
        exact ⟨403, .refused fun row hrow hfits => hnone row hrow (credentials_text.mpr hfits)⟩

end Ingest

/-- An attempt by a URL is let in to a channel, or refused like every other, or else shows that the
URL has no ordinary authority, or that it names what no store can look for. Requests are answered
with the status for this end. -/
theorem url_attempt_ends {w : World} (hw : Calm w) (hkeys : w.tables.Findable) (url : String) :
    ∃ status, Ingest.UrlEnd w.tables url (run (Ingest.byUrl url) w).1 status
      ∧ (∀ (app : App) (request : Request), app.HandsOn request (.url url) →
        (app.serve request w).1.status = status)
      ∧ (Url.IsOrdinary (Url.authority url.toList) →
        (∀ name key, plainCredentials url = .ok (name, key) → '\x00' ∉ name.toList) →
          status = 200 ∨ status = 403) := by
  obtain ⟨status, hend⟩ := Ingest.exists_urlEnd hw hkeys url
  refine ⟨status, hend, fun app request h => ?_, fun hordinary hnames => ?_⟩
  · rw [h.answer_eq]
    exact hend.status_eq app request
  · exact hend.let_in_or_refused hordinary hnames

/-- A URL without a path is refused with status 403. -/
theorem url_attempt_ends_pathless : ∃ (w : World) (app : App) (request : Request),
    Ingest.UrlEnd w.tables "rtmp://ingest.test" (run (Ingest.byUrl "rtmp://ingest.test") w).1 403
      ∧ (app.serve request w).1.status = 403 := by
  obtain ⟨app, hkeyed⟩ := App.exists_keyed
  have hurl : Json.Readable Json.depthLimit (.obj [(.text "url", .str "rtmp://ingest.test")]) := by
    constructor <;> decide
  have hrequest := app.posts_posting "/ingest/rtmp" hkeyed hurl
  let w := Store.holding .empty
  obtain ⟨status, hend, hserve, -⟩ := url_attempt_ends (w := w) (Store.calm_holding _)
    (by constructor <;> decide) "rtmp://ingest.test"
  have hrefused : (run (Ingest.byUrl "rtmp://ingest.test") w).1 = .error refusal := by
    decide +kernel
  let request := app.posting "/ingest/rtmp" (.obj [(.text "url", .str "rtmp://ingest.test")])
  have hstatus := hend.status_eq app request
  rw [hrefused] at hstatus
  obtain rfl : 403 = status := hstatus
  exact ⟨w, app, request, hend, hserve app request (.url hrequest rfl rfl rfl (by decide))⟩

/-- Not every attempt by a URL is let in or refused: a bracket in the authority that is not closed is
told about. -/
theorem open_bracket_told_apart : ¬∀ (w : World) (url : String), Calm w → w.tables.Findable →
    (∃ row ∈ w.tables.channels, (run (Ingest.byUrl url) w).1 = .ok (authorization w.tables row))
      ∨ (run (Ingest.byUrl url) w).1 = .error refusal := by
  intro hclaim
  let w := Store.holding .empty
  have hend : (run (Ingest.byUrl "rtmp://[/live/n?key=k") w).1
      = .error (.url .unmatchedBracket) := by
    decide +kernel
  rcases hclaim w "rtmp://[/live/n?key=k" (Store.calm_holding _) (by constructor <;> decide) with
    ⟨row, hrow, -⟩ | hrefused
  · cases hrow
  · cases hend.symm.trans hrefused

end OnAir
