import OnAir.Proofs.App.Deed

/-!
# What many requests make of the tables

Requests of any kind come in from empty tables on, while the clock moves, bytes are drawn elsewhere and
the store fails in any way and answers with any tags. What each row of the tables has to do with the
request that added it is followed from request to request.
-/

namespace OnAir.App

open Channel (secretAt)
open Http (Request)
open Store (ChannelRow Tables)

structure Served where
  world : World
  request : Request

/-- The requests that have come to an application since its tables were empty, in order, and the world
after them. In between the world may change in any way that leaves the tables alone and draws no
bytes twice. -/
inductive Traffic (app : App) : List Served → World → Prop
  | start (w : World) (hempty : w.tables = .empty) : Traffic app [] w
  | move {past : List Served} {w : World} (v : World) (h : Traffic app past w)
      (htables : v.tables = w.tables) (hrandom : w.random.Onward v.random) : Traffic app past v
  | serve {past : List Served} {w : World} (request : Request) (h : Traffic app past w) :
      Traffic app (past ++ [⟨w, request⟩]) (app.serve request w).2

def Served.after (app : App) (e : Served) : World :=
  (app.serve e.request e.world).2

def Served.Adds (app : App) (e : Served) (row : ChannelRow) : Prop :=
  Added e.world.tables e.world.random (e.after app) row

section
variable {app : App} {past : List Served} {w : World} {e : Served} {row old : ChannelRow}

theorem Served.Adds.succeeds (h : e.Adds app old) (hrow : row.Succeeds old) : e.Adds app row := by
  obtain ⟨hchannels, hsecret, hrandom⟩ := h
  refine ⟨?_, hrow.secret.trans hsecret, hrandom⟩
  rw [hrow.owner, hrow.name, hrow.secret]
  exact hchannels

theorem Served.Adds.name_eq {other : ChannelRow} (h : e.Adds app row) (h' : e.Adds app other) :
    row.name = other.name := by
  have hrows := List.append_cancel_left (h.channels.symm.trans h'.channels)
  simp only [List.cons.injEq, ChannelRow.mk.injEq] at hrows
  exact hrows.1.2.1

/-- What is true of the tables after any requests. -/
structure Housed (app : App) (past : List Served) (w : World) : Prop where
  unique : w.tables.Unique
  named : ∀ who ∈ w.tables.owners, who ≠ ""
  channels : ∀ row ∈ w.tables.channels, Channel.ProperName row.name ∧ row.owner ∈ w.tables.owners
    ∧ row.ftlId = none ∧ ∃ e ∈ past, e.Adds app row

theorem Traffic.housed (h : Traffic app past w) : Housed app past w := by
  induction h with
  | start w hempty =>
    have hunique : w.tables.Unique := hempty ▸ Store.Tables.unique_empty
    refine ⟨hunique, ?_, ?_⟩ <;> rw [hempty] <;> intro _ hmem <;> cases hmem
  | move v _ htables _ ih =>
    obtain ⟨hunique, hnamed, hchannels⟩ := ih
    rw [← htables] at hunique hnamed hchannels
    exact ⟨hunique, hnamed, hchannels⟩
  | @serve past w request _ ih =>
    have hdeed := app.serve_deed request w
    obtain ⟨hstay, hcome⟩ := hdeed.owners
    refine ⟨hdeed.unique ih.unique, fun who hwho => (hcome who hwho).elim id (ih.named who), ?_⟩
    intro row hrow
    rcases hdeed.channels hrow with ⟨old, hold, hsame⟩ | ⟨hname, howner, hid, hadded⟩
    · obtain ⟨hname, howner, hid, e, he, hadds⟩ := ih.channels old hold
      refine ⟨hsame.name ▸ hname, hsame.owner ▸ hstay howner, hsame.ftlId.trans hid, e, ?_, ?_⟩
      · exact List.mem_append_left _ he
      · exact hadds.succeeds hsame
    · exact ⟨hname, howner, hid, ⟨w, request⟩, by simp, hadded⟩

theorem Traffic.ordered (h : Traffic app past w) :
    (∀ e ∈ past, (e.after app).random.Onward w.random)
      ∧ past.Pairwise fun e f => (e.after app).random.Onward f.world.random := by
  induction h with
  | start => exact ⟨fun e he => absurd he List.not_mem_nil, .nil⟩
  | move v _ _ hrandom ih => exact ⟨fun e he => (ih.1 e he).trans hrandom, ih.2⟩
  | @serve past w request _ ih =>
    constructor
    · intro e he
      rcases List.mem_append.mp he with hmem | hlast
      · exact (ih.1 e hmem).trans (app.serve_deed request w).onward
      · cases List.mem_singleton.mp hlast
        exact .refl _
    · refine List.pairwise_append.mpr ⟨ih.2, List.pairwise_singleton _ _, fun e he f hf => ?_⟩
      cases List.mem_singleton.mp hf
      exact ih.1 e he

/-- Two requests were given different bytes of one stream. -/
structure Served.Apart (e f : Served) : Prop where
  byteAt : e.world.random.byteAt = f.world.random.byteAt
  drawn : e.world.random.drawn + 24 ≤ f.world.random.drawn
    ∨ f.world.random.drawn + 24 ≤ e.world.random.drawn

theorem Served.Apart.symm {f : Served} (h : e.Apart f) : f.Apart e :=
  ⟨h.byteAt.symm, h.drawn.symm⟩

theorem Served.Adds.apart {f : Served} (h : e.Adds app row)
    (hbefore : (e.after app).random.Onward f.world.random) : e.Apart f := by
  obtain ⟨hbytes, hdrawn⟩ := hbefore
  rw [h.random] at hbytes hdrawn
  exact ⟨hbytes.symm, .inl hdrawn⟩

theorem Traffic.apart {f : Served} {other : ChannelRow} (h : Traffic app past w) (he : e ∈ past)
    (hf : f ∈ past) (hadds : e.Adds app row) (hadds' : f.Adds app other)
    (hne : row.name ≠ other.name) : e.Apart f := by
  obtain ⟨i, hi, rfl⟩ := List.mem_iff_getElem.mp he
  obtain ⟨j, hj, rfl⟩ := List.mem_iff_getElem.mp hf
  have hpairs := List.pairwise_iff_getElem.mp h.ordered.2
  rcases Nat.lt_trichotomy i j with hlt | rfl | hgt
  · exact hadds.apart (hpairs i j hi hj hlt)
  · exact absurd (hadds.name_eq hadds') hne
  · exact (hadds'.apart (hpairs j i hj hi hgt)).symm

/-- The tables that requests leave. -/
structure Orderly (app : App) (past : List Served) (w : World) : Prop where
  names : (w.tables.channels.map (·.name)).Nodup
  proper : ∀ row ∈ w.tables.channels,
    Channel.ProperName row.name ∧ Url.segment row.name = row.name
  keys : ∀ row ∈ w.tables.channels, row.secret.length = 48
    ∧ (∀ c ∈ row.secret.toList, Hex.isLower c = true) ∧ ∃ e ∈ past, e.Adds app row
  draws : ∀ row ∈ w.tables.channels, ∀ other ∈ w.tables.channels, row ≠ other →
    ∀ e ∈ past, ∀ f ∈ past, e.Adds app row → f.Adds app other → e.Apart f
  owners : ∀ who, who ∈ w.tables.owners ∨ (∃ row ∈ w.tables.channels, row.owner = who) →
    who ≠ "" ∧ (w.tables.users.countP fun user => user.owner = who) = 1
      ∧ w.tables.ownerAnnounce? who ≠ none
  ftlIds : ∀ row ∈ w.tables.channels, row.ftlId = none

end

/-- Whatever requests come, whatever faults strike and however the clock moves: no two channels have
one name, each name needs no quoting, each key is made of the bytes drawn by the request that added the
channel and by no other, every owner has a name and exactly one row, and nobody has an FTL number. -/
theorem traffic_orderly {app : App} {past : List Served} {w : World} (h : Traffic app past w) :
    Orderly app past w where
  names := h.housed.unique.names
  proper row hrow := by
    obtain ⟨hname, -⟩ := h.housed.channels row hrow
    exact ⟨hname, hname.segment⟩
  keys row hrow := by
    obtain ⟨-, -, -, e, he, hadds⟩ := h.housed.channels row hrow
    have hsecret : row.secret = secretAt e.world.random := hadds.secret
    rw [hsecret]
    exact ⟨Channel.length_secretAt _, fun c => Channel.isLower_of_mem_secretAt, e, he, hadds⟩
  draws row hrow other hother hne e he f hf hadds hadds' := by
    refine h.apart he hf hadds hadds' fun hname => hne ?_
    exact List.inj_on_of_nodup_map h.housed.unique.names hrow hother hname
  owners who hwho := by
    have hmem : who ∈ w.tables.owners := by
      rcases hwho with hmem | ⟨row, hrow, rfl⟩
      · exact hmem
      · exact (h.housed.channels row hrow).2.1
    refine ⟨h.housed.named who hmem, Tables.countP_owner h.housed.unique hmem, ?_⟩
    obtain ⟨user, huser, rfl⟩ := List.mem_map.mp hmem
    have hfound := (Store.find?_eq_some h.housed.unique.owners).mpr ⟨huser, rfl⟩
    simp [Tables.ownerAnnounce?, Tables.userNamed?, hfound]
  ftlIds row hrow := (h.housed.channels row hrow).2.2.1

/-- Somebody creates a channel, which the store does not commit, and then another one. -/
theorem traffic_orderly_created : ∃ (app : App) (past : List Served) (w : World),
    Traffic app past w ∧ past.length = 2
      ∧ w.tables.channels
        = [⟨"ann", "radio", "18191a1b1c1d1e1f202122232425262728292a2b2c2d2e2f", none, true⟩]
      ∧ Orderly app past w := by
  let settings : Settings := ⟨false, "", 0, 1, "", "", "", "", "", "", [], "", false, "state",
    "login", "", "", "", "", 1, .ofInt 5, "key"⟩
  let flow : Login.Flow := ⟨some ⟨"secret"⟩, ⟨"", "", "", "", "", "", []⟩, "state", "login", ""⟩
  let app : App := ⟨settings, "", .make "" 1 (.ofInt 5), flow⟩
  let cookie : String := "login=eyJ2Ijp7ImlkIjoiYW5uIiwidXNlcm5hbWUiOiIiLCJkaXNjcmltaW5hdG9yIjoiIiwi"
    ++ "YXZhdGFyIjoiIn0sInR0bCI6MTAwMH0..c5Fw1NiL8GAopInOAsBftFB6yjQ"
  let create (name : String) : Request := ⟨"", "POST", "/api/defs", [],
    [("cookie", cookie), ("content-type", "application/json")],
    Utf8.ofString ("\x7b\"name\": \"" ++ name ++ "\"\x7d"), none, "", "", ""⟩
  let w : World := { Store.holding .empty with
    random := ⟨UInt8.ofNat, 0⟩, faults := [⟨.commit, 1, ⟨.outage, "", ""⟩⟩] }
  have htraffic : Traffic app _ _ := ((Traffic.start w rfl).serve (create "show")).serve
    (create "radio")
  refine ⟨app, _, _, htraffic, rfl, ?_, traffic_orderly htraffic⟩
  decide +kernel

end OnAir.App
