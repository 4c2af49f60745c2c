import OnAir.App.Serve
import OnAir.Proofs.Http.Route
import OnAir.Proofs.Service.Announcement
import OnAir.Proofs.Service.History
import OnAir.Proofs.Url.Percent

/-!
# Addresses of pictures

A listing shows a channel with two addresses, each a base and one segment of a path with the name in
it. Whatever the name, no part of it is taken for a delimiter, so the address of one channel is not
that of another one. Where the base is the path at which the application shows pictures, the address of
a channel leads to the picture that was put last under its name, whatever else has happened since.
-/

namespace OnAir

open Act (run)
open Http (Request Response)
open Store (Calm Tables ThumbRow Yields)

-- -----------------------------------------------------------------------------
-- Addresses
-- -----------------------------------------------------------------------------

structure Bare (base bare : String) : Prop where
  slashes : ∃ count, base.toList = bare.toList ++ List.replicate count '/'
  ends : bare.toList.getLast? ≠ some '/'

theorem bare_withoutSlashes (base : String) : Bare base (withoutSlashes base) := by
  obtain ⟨tail, hbase, htail, hend⟩ := Text.eq_append_dropTail (· == '/') base.toList
  have hslashes : tail = List.replicate tail.length '/' :=
    List.eq_replicate_of_mem fun c hc => beq_iff_eq.mp (htail c hc)
  rw [withoutSlashes]
  constructor
  · refine ⟨tail.length, ?_⟩
    rw [String.toList_ofList, ← hslashes, ← hbase]
  · rw [String.toList_ofList]
    intro hslash
    cases hend '/' hslash

/-- An address below a base: the base without the slashes at its end, and behind a slash one segment
of a path that a text is read from. -/
inductive Below (base text : String) : String → Prop
  | mk {bare segment : String} (hbare : Bare base bare)
    (hplain : ∀ c ∈ segment.toList, c ≠ '/' ∧ c ≠ '?' ∧ c ≠ '#')
    (hread : Url.unquote segment.toList = text.toList) : Below base text (bare ++ "/" ++ segment)

theorem Below.text_unique {base other a b url : String} (ha : Below base a url)
    (hb : Below other b url) : a = b := by
  obtain @⟨bare, segment, -, hplain, hread⟩ := ha
  generalize hurl : bare ++ "/" ++ segment = url at hb
  obtain @⟨bare', segment', -, hplain', hread'⟩ := hb
  have hcut (bare segment : String) (h : ∀ c ∈ segment.toList, c ≠ '/' ∧ c ≠ '?' ∧ c ≠ '#') :
      Text.cutLast? '/' (bare ++ "/" ++ segment).toList = some (bare.toList, segment.toList) := by
    have hslash : '/' ∉ segment.toList := fun hmem => (h '/' hmem).1 rfl
    have hjoined : (bare ++ "/" ++ segment).toList = bare.toList ++ '/' :: segment.toList := by simp
    rw [hjoined, Text.cutLast?_append _ hslash]
  have hsame := (hcut bare segment hplain).symm.trans (hurl ▸ hcut bare' segment' hplain')
  obtain ⟨-, hsegment⟩ := Prod.mk.inj (Option.some.inj hsame)
  rw [← String.toList_inj, ← hread, ← hread', hsegment]

/-- A quoted name, with an ending that needs no quoting, is a segment that the name is read from. -/
theorem below_segment (base name : String) {ending : String}
    (hending : ∀ c ∈ ending.toList, Url.isUnreserved c = true) :
    Below base (name ++ ending) (withoutSlashes base ++ "/" ++ Url.segment name ++ ending) := by
  have hsplit : withoutSlashes base ++ "/" ++ Url.segment name ++ ending
      = withoutSlashes base ++ "/" ++ (Url.segment name ++ ending) := String.append_assoc
  rw [hsplit]
  refine .mk (bare_withoutSlashes base) (fun c hc => ?_) ?_
  · have hplain : Url.IsPlain c := by
      rw [String.toList_append, List.mem_append] at hc
      rcases hc with hc | hc
      · exact Url.isPlain_of_mem_segment hc
      · exact (Url.isUnreserved_spec (hending c hc)).1
    have hnot := hplain.2.2
    refine ⟨?_, ?_, ?_⟩ <;> rintro rfl <;> exact hnot (by decide)
  · have hliteral : ∀ c ∈ ending.toList, Url.isLiteral c = true := by
      intro c hc
      have := Url.literal_isUnreserved c (hending c hc)
      simpa [Url.isLiteral] using this
    rw [String.toList_append, String.toList_append, Url.segment, String.toList_ofList]
    exact Url.unquote_around Url.literal_isUnreserved name.toList (List.forall_mem_nil _) hliteral

structure Addressed (thumbBase liveBase : String) (e : Directory.Entry) : Prop where
  thumb : Below thumbBase (e.name ++ ".jpg") e.thumb
  live : Below liveBase e.name e.liveUrl

theorem Addressed.ne {thumbBase liveBase thumbBase' liveBase' : String} {e other : Directory.Entry}
    (h : Addressed thumbBase liveBase e) (hother : Addressed thumbBase' liveBase' other)
    (hname : e.name ≠ other.name) : e.thumb ≠ other.thumb ∧ e.liveUrl ≠ other.liveUrl := by
  constructor
  · intro hsame
    have hends := h.thumb.text_unique (hsame ▸ hother.thumb)
    exact hname ((String.append_left_inj _).mp hends)
  · intro hsame
    exact hname (h.live.text_unique (hsame ▸ hother.live))

namespace Directory

variable {w : World} {thumbBase liveBase : String} {entries : List Entry} {e : Entry}

def entryOf (thumbBase liveBase : String) (live : Option (List String)) (row : LivenessRow) :
    Entry where
  name := row.name
  live := live.any (·.contains row.name)
  last := row.updated.millis
  thumb := withoutSlashes thumbBase ++ "/" ++ Url.segment row.name ++ ".jpg"
  liveUrl := withoutSlashes liveBase ++ "/" ++ Url.segment row.name

theorem exists_row (h : (run (list thumbBase liveBase) w).1 = .ok entries) (he : e ∈ entries) :
    ∃ row live, e = entryOf thumbBase liveBase live row := by
  obtain ⟨rows, v, -, hrest⟩ := Act.bind_ok.mp (Act.run_eq h)
  obtain ⟨live, v', -, hrest⟩ := Act.bind_ok.mp hrest
  cases hrest
  obtain ⟨row, -, rfl⟩ := List.mem_map.mp he
  exact ⟨row, live, rfl⟩

theorem addressed_of_list (h : (run (list thumbBase liveBase) w).1 = .ok entries)
    (he : e ∈ entries) : Addressed thumbBase liveBase e := by
  obtain ⟨row, live, rfl⟩ := exists_row h he
  have hjpg : ∀ c ∈ ".jpg".toList, Url.isUnreserved c = true := by simp [Url.isUnreserved]
  have hnone : ∀ c ∈ "".toList, Url.isUnreserved c = true := by simp
  refine ⟨below_segment thumbBase row.name hjpg, ?_⟩
  have hlive := below_segment liveBase row.name hnone
  rwa [String.append_empty, String.append_empty] at hlive

end Directory

-- -----------------------------------------------------------------------------
-- Requests
-- -----------------------------------------------------------------------------

/-- The address of a picture below the path for pictures is requested as the path with its name. -/
theorem Http.Request.ofTarget_thumb (server method name : String) (headers : List (String × String))
    (body : Bytes) (client : Option String) (id reference duration : String) :
    ∃ request, ofTarget server method ("/thumbs" ++ "/" ++ Url.segment name ++ ".jpg")
        headers body client id reference duration = .ok request
      ∧ request.method = method ∧ request.path = "/thumbs/" ++ name ++ ".jpg" := by
  have htarget : ("/thumbs" ++ "/" ++ Url.segment name ++ ".jpg").toList
      = "/thumbs/".toList ++ Url.quote Url.isUnreserved name.toList ++ ".jpg".toList := by
    simp [Url.segment]
  have hquery : '?' ∉ ("/thumbs" ++ "/" ++ Url.segment name ++ ".jpg").toList := by
    have hsegment : '?' ∉ (Url.segment name).toList := fun hmem =>
      (Url.isPlain_of_mem_segment hmem).2.2 (by decide)
    simp [hsegment]
  have hpath : Url.unquote ("/thumbs" ++ "/" ++ Url.segment name ++ ".jpg").toList
      = ("/thumbs/" ++ name ++ ".jpg").toList := by
    rw [htarget, Url.unquote_around Url.literal_isUnreserved name.toList (by simp [Url.isLiteral])
      (by simp [Url.isLiteral])]
    simp
  have hfault : Utf8.fault? (bytesOf []) = none := rfl
  simp only [ofTarget, Text.cutFirst?_eq_none hquery, Option.getD_none, hpath, hfault,
    String.ofList_toList]
  exact ⟨_, rfl, rfl, rfl⟩

theorem App.serve_thumbnail {app : App} {request : Request} {w : World} {row : ThumbRow}
    (hmethod : request.method = "GET") (hpath : request.path = "/thumbs/" ++ row.name ++ ".jpg")
    (hname : row.name ≠ "") (hslash : '/' ∉ row.name.toList) (hzero : '\x00' ∉ row.name.toList)
    (hw : Calm w) (hkeys : w.tables.Unique) (hrow : row ∈ w.tables.thumbs) :
    (app.serve request w).1 = (Response.of 200 (.picture row.picture)).guarded := by
  have hrespond : app.respond request = thumbnail row.name := by
    unfold respond
    rw [hmethod, hpath, Http.destination_thumbnail hname hslash]
    rfl
  have hfound : w.tables.thumbNamed? row.name = some row :=
    (Store.find?_eq_some hkeys.thumbs).mpr ⟨hrow, rfl⟩
  have hadmitted : [RawText.text row.name].forM Store.checkStorable = .ok () := by
    rw [List.forM_eq_forM, List.forM_cons, Store.checkStorable_text.mpr hzero]
    rfl
  have hw' : Calm (w.noting [request.arrival]) := ⟨hw.faults, hw.isOpen, hw.tag⟩
  have hregistry : Yields (Channel.Registry.thumbnail row.name) (w.noting [request.arrival])
      (.ok row.picture) w.tables := by
    have h := Channel.Registry.thumbnail_yields hw' hadmitted
    rwa [RawText.filled, RawText.filledWith, World.noting_tables, hfound] at h
  have hserved : Yields (thumbnail row.name) (w.noting [request.arrival])
      (.ok (.of 200 (.picture row.picture))) w.tables :=
    ((hregistry.mapError _).mapError _).bind fun _ hv => .pure _ hv.tables_eq
  obtain ⟨v, hrun, -⟩ := hserved
  rw [serve_of_ok (hrespond ▸ hrun)]

-- -----------------------------------------------------------------------------
-- Runs
-- -----------------------------------------------------------------------------

namespace Service

variable {publishDir : String} {before : Tables} {past later : List Entry} {v w : World}
  {name : String} {picture : Bytes}

/-- The picture under a name after a run: the one that was put last, or where none was put the one
from before. -/
def Newest (publishDir : String) (before : Tables) (past : List Entry) (name : String)
    (picture : Bytes) : Prop :=
  (∃ time, Pictured publishDir name picture time past)
    ∨ (∀ e ∈ past, ¬e.Puts publishDir name)
      ∧ ∃ row ∈ before.thumbs, row.name = name ∧ row.picture = picture

theorem storable_of_did {e : Entry} (h : e.Did publishDir (.putThumbnail (.text name) picture)) :
    '\x00' ∉ name.toList := by
  obtain ⟨-, answer, hanswer⟩ := h
  rw [Call.act, map_eq_pure_bind] at hanswer
  obtain ⟨u, v, hput, -⟩ := Act.bind_ok.mp (Act.run_eq hanswer)
  have hdirectory := congrArg Prod.fst hput
  rw [Act.run_mapError, mapError_ok] at hdirectory
  obtain ⟨u', v', hserved, -⟩ := Act.bind_ok.mp (Act.run_eq hdirectory)
  have hregistry := congrArg Prod.fst hserved
  rw [Channel.serving, Act.run_mapError, mapError_ok] at hregistry
  exact Store.checkStorable_text.mp (Channel.Registry.storable_of_put (Act.run_eq hregistry))

theorem Newest.storable (h : Newest publishDir before past name picture)
    (hstored : ∀ row ∈ before.thumbs, '\x00' ∉ row.name.toList) : '\x00' ∉ name.toList := by
  rcases h with ⟨time, front, e, after, -, ⟨hdid, -⟩, -⟩ | ⟨-, row, hrow, rfl, -⟩
  · exact storable_of_did hdid
  · exact hstored row hrow

theorem Course.trans (h : Course publishDir before past v)
    (hlater : Course publishDir v.tables later w) : Course publishDir before (past ++ later) w := by
  induction hlater with
  | start w hbefore =>
    rw [List.append_nil]
    exact h.move w hbefore
  | move v' _ htables ih => exact ih.move v' htables
  | call call _ htag ih =>
    rw [← List.append_assoc]
    exact ih.call call htag

theorem thumbs_iff {t : Tables} (hkeys : t.Unique) :
    (∃ time, t.maps.thumbs name = some (picture, time))
      ↔ ∃ row ∈ t.thumbs, row.name = name ∧ row.picture = picture := by
  constructor
  · rintro ⟨time, htime⟩
    exact ⟨⟨name, picture, time⟩, (Tables.mem_thumbs hkeys).mpr htime, rfl, rfl⟩
  · rintro ⟨row, hrow, rfl, rfl⟩
    exact ⟨row.updated, (Tables.mem_thumbs hkeys).mp hrow⟩

theorem Course.newest_iff (hcourse : Course publishDir before past w) (hkeys : before.Unique) :
    Newest publishDir before past name picture
      ↔ ∃ row ∈ w.tables.thumbs, row.name = name ∧ row.picture = picture := by
  have htimes (time : Instant) : w.tables.maps.thumbs name = some (picture, time)
      ↔ Pictured publishDir name picture time past
        ∨ (∀ e ∈ past, ¬e.Puts publishDir name)
          ∧ before.maps.thumbs name = some (picture, time) :=
    hcourse.since_iff hkeys fun _ _ _ hturn => hturn.thumbs_iff name picture time
  rw [← thumbs_iff (hcourse.unique hkeys), Newest, ← thumbs_iff hkeys]
  simp only [htimes, exists_or, exists_and_left]

theorem Course.newest_iff_row {row : ThumbRow} (hcourse : Course publishDir before past w)
    (hkeys : before.Unique) (hrow : row ∈ w.tables.thumbs) (other : Bytes) :
    Newest publishDir before past row.name other ↔ other = row.picture := by
  rw [hcourse.newest_iff hkeys]
  have hfound (r : ThumbRow) (hr : r ∈ w.tables.thumbs) (hname : r.name = row.name) :
      w.tables.thumbNamed? row.name = some r :=
    (Store.find?_eq_some (hcourse.unique hkeys).thumbs).mpr ⟨hr, hname⟩
  constructor
  · rintro ⟨r, hr, hname, rfl⟩
    have hsame := (hfound r hr hname).symm.trans (hfound row hrow rfl)
    rw [Option.some.inj hsame]
  · rintro rfl
    exact ⟨row, hrow, rfl, rfl⟩

theorem Course.keeps_picture (hcourse : Course publishDir before past w) (hkeys : before.Unique)
    (h : ∃ row ∈ before.thumbs, row.name = name) : ∃ row ∈ w.tables.thumbs, row.name = name := by
  have hsome {t : Tables} (ht : t.Unique) :
      (t.maps.thumbs name).isSome = true ↔ ∃ row ∈ t.thumbs, row.name = name := by
    simp only [Option.isSome_iff_exists, Prod.exists, thumbs_iff ht]
    simp
  rw [← hsome (hcourse.unique hkeys)]
  refine (hcourse.since_iff (S := fun m => (m.thumbs name).isSome = true)
    (P := Entry.Puts publishDir name) (Q := fun _ => False) hkeys fun e m m' hturn => ?_).mpr
    (.inr ⟨fun _ _ => id, (hsome hkeys).mpr h⟩)
  simp only [Option.isSome_iff_exists, Prod.exists, hturn.thumbs_iff]
  constructor
  · rintro ⟨picture, time, ⟨hput, -⟩ | ⟨-, hkept⟩⟩
    · exact .inl ⟨picture, hput⟩
    · exact .inr ⟨id, picture, time, hkept⟩
  · rintro (⟨picture, hput⟩ | ⟨-, picture, time, hkept⟩)
    · exact ⟨picture, _, .inl ⟨hput, rfl⟩⟩
    · by_cases hputs : e.Puts publishDir name
      · obtain ⟨bytes, hput⟩ := hputs
        exact ⟨bytes, _, .inl ⟨hput, rfl⟩⟩
      · exact ⟨picture, time, .inr ⟨hputs, hkept⟩⟩

theorem exists_thumb {thumbBase liveBase : String} {entries : List Directory.Entry}
    {e : Directory.Entry} (hkeys : v.tables.Unique)
    (h : (run (Directory.list thumbBase liveBase) v).1 = .ok entries) (he : e ∈ entries) :
    ∃ row ∈ v.tables.thumbs, row.name = e.name := by
  have hshown := List.mem_map_of_mem (f := fun e : Directory.Entry => e.name) he
  rw [(Shows.directory h).eq, mem_shown_iff hkeys.findable] at hshown
  exact hshown.1

end Service

open Service

/-- The two addresses of a listed channel are the bases without the slashes at their ends, and behind
a slash one segment that its name is read from, with an ending for the picture; so channels with
different names have different addresses, in every world. Where the first base is the path for
pictures, the address of a channel whose name can stand in a path leads to its picture: from tables
with names that can be stored, anything may be called before a listing and after it, and with any
faults, and then a store without faults answers a request for that address with the bytes that were
put last under the name. -/
theorem addresses_lead_to_pictures :
    (∀ w thumbBase liveBase entries, (run (Directory.list thumbBase liveBase) w).1 = .ok entries →
      (∀ e ∈ entries, Addressed thumbBase liveBase e)
      ∧ ∀ e ∈ entries, ∀ other ∈ entries, e.name ≠ other.name →
        e.thumb ≠ other.thumb ∧ e.liveUrl ≠ other.liveUrl)
    ∧ ∀ (app : App) (publishDir : String) (before : Tables) (past later : List Entry) (v w : World)
      (entries : List Directory.Entry), withoutSlashes app.settings.thumbBaseUrl = "/thumbs" →
      before.Unique → (∀ row ∈ before.thumbs, '\x00' ∉ row.name.toList) →
      Course publishDir before past v →
      (run (Directory.list app.settings.thumbBaseUrl app.settings.liveBaseUrl) v).1 = .ok entries →
      Course publishDir v.tables later w → Calm w →
      ∀ e ∈ entries, e.name ≠ "" → '/' ∉ e.name.toList →
        ∃ picture, (∀ other, Newest publishDir before (past ++ later) e.name other ↔ other = picture)
          ∧ ∀ server headers body client id reference duration, ∃ request,
            Request.ofTarget server "GET" e.thumb headers body client id reference duration
              = .ok request
            ∧ (app.serve request w).1
              = ⟨200, ("content-type", "image/jpeg") :: Http.protection, [], .picture picture⟩ := by
  refine ⟨fun w thumbBase liveBase entries h => ?_, ?_⟩
  · have hall (e : Directory.Entry) (he : e ∈ entries) : Addressed thumbBase liveBase e :=
      Directory.addressed_of_list h he
    exact ⟨hall, fun e he other hother hname => (hall e he).ne (hall other hother) hname⟩
  · intro app publishDir before past later v w entries hbase hbefore hstored hpast hlist hlater hw
      e he hname hslash
    have hrun := hpast.trans hlater
    have hv := hpast.unique hbefore
    have hkeys := hlater.unique hv
    obtain ⟨row, hrow, hnamed⟩ := hlater.keeps_picture hv (exists_thumb hv hlist he)
    have hnewest := hrun.newest_iff_row hbefore hrow
    have hzero := ((hnewest row.picture).mpr rfl).storable hstored
    refine ⟨row.picture, hnamed ▸ hnewest,
      fun server headers body client id reference duration => ?_⟩
    have hthumb : e.thumb = "/thumbs" ++ "/" ++ Url.segment e.name ++ ".jpg" := by
      obtain ⟨listed, live, rfl⟩ := Directory.exists_row hlist he
      rw [Directory.entryOf, hbase]
    obtain ⟨request, htarget, hmethod, hpath⟩ :=
      Request.ofTarget_thumb server "GET" e.name headers body client id reference duration
    rw [hthumb]
    rw [← hnamed] at hpath hname hslash
    exact ⟨request, htarget, App.serve_thumbnail hmethod hpath hname hslash hzero hw hkeys hrow⟩

/-- Two names that differ in a delimiter have different addresses. The picture of a listed channel is
still shown once the channel is deleted and others are created and pictured, although its name ends as
an address does and its letters are quoted. -/
theorem addresses_lead_to_pictures_deleted : ∃ (both v w : World) (app : App)
    (a b entry : Directory.Entry) (entries : List Directory.Entry) (request : Request),
    (run (Directory.list "t" "l/") both).1 = .ok entries ∧ a ∈ entries ∧ b ∈ entries
    ∧ a.name = "tea?" ∧ b.name = "tea#" ∧ a.thumb ≠ b.thumb ∧ a.liveUrl ≠ b.liveUrl
    ∧ (run (Directory.list app.settings.thumbBaseUrl app.settings.liveBaseUrl) v).1 = .ok [entry]
    ∧ entry.thumb = "/thumbs/th%C3%A9.jpg.jpg" ∧ w.tables.channels.length = 1
    ∧ Request.ofTarget "" "GET" entry.thumb [] [] none "" "" "" = .ok request
    ∧ (app.serve request w).1
      = ⟨200, ("content-type", "image/jpeg") :: Http.protection, [], .picture [2]⟩ := by
  obtain ⟨haddresses, hpictures⟩ := addresses_lead_to_pictures
  let tables : Tables := ⟨[⟨"ann", true⟩], [⟨"ann", "tea?", "k", none, true⟩,
    ⟨"ann", "tea#", "k", none, true⟩], [⟨"tea?", [1], 0⟩, ⟨"tea#", [1], 0⟩]⟩
  let both := Store.holding tables
  have hkeys : both.tables.Unique := by constructor <;> decide
  obtain ⟨entries, hboth⟩ := (exists_shows (Store.calm_holding tables) rfl (by decide)).2 "t" "l/"
  have hlisted (name : String) (hname : name ∈ ["tea?", "tea#"]) :
      ∃ e ∈ entries, e.name = name := by
    have hall : ∀ name ∈ ["tea?", "tea#"], (∃ thumb ∈ both.tables.thumbs, thumb.name = name)
        ∧ ∃ row ∈ both.tables.channels, row.name = name
          ∧ both.tables.announced row = true := by decide
    have hshown := (mem_shown_iff hkeys.findable).mpr (hall name hname)
    rw [← (Shows.directory hboth).eq] at hshown
    exact List.mem_map.mp hshown
  obtain ⟨a, ha, haname⟩ := hlisted "tea?" (by decide)
  obtain ⟨b, hb, hbname⟩ := hlisted "tea#" (by decide)
  have hne := (haddresses both "t" "l/" entries hboth).2 a ha b hb (by rw [haname, hbname]; decide)
  let settings : Settings := ⟨false, "", 0, 1, "", "", "", "", "", "", [], "", false, "state",
    "login", "", "", "/thumbs/", "/live", 1, .ofInt 5, "key"⟩
  let app : App :=
    ⟨settings, "", .make "" 1 (.ofInt 5), ⟨none, ⟨"", "", "", "", "", "", []⟩, "", "", ""⟩⟩
  let first : List Call := [.owner "ann" (.create "thé.jpg"), .putThumbnail "thé.jpg" [1],
    .putThumbnail "thé.jpg" [2]]
  let second : List Call := [.owner "ann" (.delete "thé.jpg"), .owner "bob" (.create "tea"),
    .putThumbnail "tea" [3]]
  let v := (hourly first ([], fresh)).2
  let w := (hourly second ([], v)).2
  have hpast : Course "" .empty (hourly first ([], fresh)).1 v :=
    (Course.start fresh rfl).hourly (s := ([], fresh)) first rfl
  have hlater : Course "" v.tables (hourly second ([], v)).1 w :=
    (Course.start v rfl).hourly (s := ([], v)) second rfl
  let entry : Directory.Entry :=
    ⟨"thé.jpg", false, 7200000, "/thumbs/th%C3%A9.jpg.jpg", "/live/th%C3%A9.jpg"⟩
  have hlist : (run (Directory.list "/thumbs/" "/live") v).1 = .ok [entry] := by decide +kernel
  have hcalm : Calm w := ⟨by decide +kernel, by decide +kernel, rfl⟩
  obtain ⟨picture, hnewest, hserve⟩ := hpictures app "" .empty _ _ v w [entry] (by decide +kernel)
    Tables.unique_empty nofun hpast hlist hlater hcalm entry List.mem_cons_self (by decide) (by decide)
  obtain ⟨request, htarget, hanswer⟩ := hserve "" [] [] none "" "" ""
  obtain rfl : [2] = picture := by
    refine (hnewest [2]).mp (((hpast.trans hlater).newest_iff Tables.unique_empty).mpr ?_)
    decide +kernel
  exact ⟨both, v, w, app, a, b, entry, entries, request, hboth, ha, hb, haname, hbname, hne.1, hne.2,
    hlist, rfl, by decide +kernel, htarget, hanswer⟩

end OnAir
