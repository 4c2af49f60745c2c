import OnAir.Proofs.Channel.Independence

/-!
# Requests in any order

Each request brings the random bytes it will draw and the faults that will strike in it. Requests
whose calls are independent end alike in whatever order they are served, and leave the same rows
behind.
-/

namespace OnAir.Store.Tables

-- -----------------------------------------------------------------------------
-- Rows
-- -----------------------------------------------------------------------------

/-- The tables hold the same rows, in whatever order. -/
structure SameRows (t u : Tables) : Prop where
  users : t.users.Perm u.users
  channels : t.channels.Perm u.channels
  thumbs : t.thumbs.Perm u.thumbs

theorem sameRows_of_maps {t u : Tables} (ht : t.Unique) (hu : u.Unique) (h : t.maps = u.maps) :
    SameRows t u where
  users := by
    refine (List.perm_ext_iff_of_nodup ht.owners.of_map hu.owners.of_map).mpr fun row => ?_
    rw [mem_users ht, mem_users hu, h]
  channels := by
    refine (List.perm_ext_iff_of_nodup ht.names.of_map hu.names.of_map).mpr fun row => ?_
    rw [mem_channels ht, mem_channels hu, h]
  thumbs := by
    refine (List.perm_ext_iff_of_nodup ht.thumbs.of_map hu.thumbs.of_map).mpr fun row => ?_
    rw [mem_thumbs ht, mem_thumbs hu, h]

end OnAir.Store.Tables

namespace OnAir.Channel

open Act (run)
open Store (Abreast Fault Maps Tables)

-- -----------------------------------------------------------------------------
-- Requests
-- -----------------------------------------------------------------------------

/-- A call with the random bytes that it will draw and the faults that will strike in it. -/
structure Request where
  call : Call
  random : RandomSource
  faults : List Fault

namespace Request

def enter (r : Request) (w : World) : World :=
  { w with random := r.random, faults := r.faults }

def serve (r : Request) (w : World) : Reply × World :=
  run r.call.act (r.enter w)

def effect (r : Request) (now : Instant) : Reply → Maps → Maps
  | .ok _, m => r.call.change r.random now m
  | .error _, m => m

end Request

structure Ready (w : World) : Prop where
  keys : w.tables.Unique
  tag : w.nextTag = none

/-- Worlds that no request can tell apart: their tables hold the same, though perhaps in another
order. -/
structure Interchangeable (w v : World) : Prop where
  left : Ready w
  right : Ready v
  maps : w.tables.maps = v.tables.maps
  setting : Call.SameSetting w v

section
variable {a b r : Request} {w v : World} {now : Instant} {reply : Reply}

theorem Interchangeable.refl (hw : Ready w) : Interchangeable w w :=
  ⟨hw, hw, rfl, .refl w⟩

namespace Request

theorem effect_channel {key : String} (h : r.call.named? ≠ some (.text key)) (m : Maps) :
    (r.effect now reply m).channels key = m.channels key := by
  cases reply with
  | ok answer => exact Call.onChannel_other h _
  | error e => rfl

theorem effect_comm (h : a.call.Independent b.call) (replyA replyB : Reply) (m : Maps) :
    b.effect now replyB (a.effect now replyA m) = a.effect now replyA (b.effect now replyB m) := by
  cases replyA with
  | error e => rfl
  | ok answer =>
    cases replyB with
    | error e => rfl
    | ok answer' => exact (Call.change_comm h m).symm

structure Served (r : Request) (w : World) (reply : Reply) (w' : World) : Prop where
  ready : Ready w'
  maps : w'.tables.maps = r.effect w.storeClock reply w.tables.maps
  setting : Call.SameSetting w' w

theorem served (hchanges : r.call.changes = true) (hw : Ready w) :
    Served r w (r.serve w).1 (r.serve w).2 := by
  have htakes : r.call.Takes (r.enter w) := Call.takes hchanges hw.keys hw.tag
  unfold serve
  rcases hrun : run r.call.act (r.enter w) with ⟨e | answer, w'⟩
  · have hreaches := Act.Triple.error htakes hrun
    exact ⟨⟨hreaches.tables ▸ hw.keys, hreaches.nextTag⟩, congrArg Tables.maps hreaches.tables,
      { hreaches.setting with }⟩
  · obtain ⟨t, hunique, hmaps, hreaches⟩ := Act.Triple.ok htakes hrun
    exact ⟨⟨hreaches.tables ▸ hunique, hreaches.nextTag⟩,
      (congrArg Tables.maps hreaches.tables).trans hmaps, { hreaches.setting with }⟩

theorem reply_eq (hchanges : r.call.changes = true) (hw : Ready w) (hv : Ready v)
    (hsetting : Call.SameSetting w v)
    (hchannels : ∀ n, r.call.named? = some (.text n) →
      w.tables.maps.channels n = v.tables.maps.channels n) :
    (r.serve w).1 = (r.serve v).1 := by
  have hsees : r.call.Sees w.tables v.tables := Call.sees_of_channels hw.keys hv.keys hchannels
  have habreast : Abreast r.call.Sees (r.enter w) (r.enter v) :=
    { hsetting with
      tables := hsees, random := rfl, faults := rfl, nextTag := hw.tag.trans hv.tag.symm }
  exact (Call.act_abreast hchanges habreast).1

theorem serve_congr (hchanges : r.call.changes = true) (h : Interchangeable w v) :
    (r.serve w).1 = (r.serve v).1 ∧ Interchangeable (r.serve w).2 (r.serve v).2 := by
  have hreply := reply_eq hchanges h.left h.right h.setting fun n _ => by rw [h.maps]
  have hw := served hchanges h.left
  have hv := served hchanges h.right
  refine ⟨hreply, hw.ready, hv.ready, ?_, hw.setting.trans (h.setting.trans hv.setting.symm)⟩
  rw [hw.maps, hv.maps, hreply, h.maps, h.setting.storeClock]

theorem reply_after (hchanges : b.call.changes = true) (hother : a.call.changes = true)
    (h : a.call.Independent b.call) (hw : Ready w) :
    (b.serve (a.serve w).2).1 = (b.serve w).1 := by
  have hserved := served hother hw
  refine reply_eq hchanges hserved.ready hw hserved.setting fun n hname => ?_
  rw [hserved.maps, effect_channel fun hown => h.1 _ hown hname]

theorem serve_comm (ha : a.call.changes = true) (hb : b.call.changes = true)
    (h : a.call.Independent b.call) (hw : Ready w) :
    Interchangeable (b.serve (a.serve w).2).2 (a.serve (b.serve w).2).2 := by
  have hfirst := served ha hw
  have hfirst' := served hb hw
  have hsecond := served hb hfirst.ready
  have hsecond' := served ha hfirst'.ready
  have hleft := hsecond.setting.trans hfirst.setting
  have hright := hsecond'.setting.trans hfirst'.setting
  refine ⟨hsecond.ready, hsecond'.ready, ?_, hleft.trans hright.symm⟩
  rw [hsecond.maps, hsecond'.maps, hfirst.maps, hfirst'.maps, hfirst.setting.storeClock,
    hfirst'.setting.storeClock, reply_after hb ha h hw, reply_after ha hb h.symm hw]
  exact effect_comm h _ _ _

end Request

-- -----------------------------------------------------------------------------
-- Two requests
-- -----------------------------------------------------------------------------

/-- Two independent requests get the same replies in either order, whether they succeed or fail, and
leave the same rows. No tag is set aside: the store tells of each change itself how many rows it has
touched. -/
theorem independent_requests_commute (hkeys : w.tables.Unique) (htag : w.nextTag = none)
    (ha : a.call.changes = true) (hb : b.call.changes = true)
    (h : a.call.Independent b.call) :
    (a.serve w).1 = (a.serve (b.serve w).2).1 ∧ (b.serve (a.serve w).2).1 = (b.serve w).1
      ∧ (b.serve (a.serve w).2).2.tables.SameRows (a.serve (b.serve w).2).2.tables := by
  have hw : Ready w := ⟨hkeys, htag⟩
  have hcomm := Request.serve_comm ha hb h hw
  exact ⟨(Request.reply_after ha hb h.symm hw).symm, Request.reply_after hb ha h hw,
    Tables.sameRows_of_maps hcomm.left.keys hcomm.right.keys hcomm.maps⟩

/-- An owner's switch is set while a channel is created for the same owner, who is new; the store is
about to lose a connection. -/
theorem independent_requests_commute_owner : ∃ (w : World) (a b : Request),
    w.tables.Unique ∧ w.nextTag = none ∧ a.call = .create "ann" "one"
      ∧ b.call = .setOwnerAnnounce "ann" false ∧ a.call.Independent b.call
      ∧ (a.serve w).1.isOk = true ∧ (b.serve w).1.isOk = true
      ∧ (b.serve (a.serve w).2).2.tables.users = [⟨"ann", false⟩]
      ∧ (a.serve w).1 = (a.serve (b.serve w).2).1 ∧ (b.serve (a.serve w).2).1 = (b.serve w).1
      ∧ (b.serve (a.serve w).2).2.tables.SameRows (a.serve (b.serve w).2).2.tables := by
  let w : World := Store.holding .empty
  let a : Request := ⟨.create "ann" "one", ⟨fun _ => 0, 0⟩, [⟨.release, 1, ⟨.outage, "", ""⟩⟩]⟩
  let b : Request := ⟨.setOwnerAnnounce "ann" false, ⟨fun _ => 1, 0⟩, []⟩
  have h : a.call.Independent b.call := ⟨nofun, nofun⟩
  have hkeys : w.tables.Unique := Tables.unique_empty
  exact ⟨w, a, b, hkeys, rfl, rfl, rfl, h, by decide +kernel, by decide +kernel,
    by decide +kernel, independent_requests_commute hkeys rfl rfl rfl h⟩

-- -----------------------------------------------------------------------------
-- Many requests
-- -----------------------------------------------------------------------------

def serveAll : List Request → World → List (Request × Reply) × World
  | [], w => ([], w)
  | r :: rest, w =>
    let (reply, w) := r.serve w
    let (replies, w) := serveAll rest w
    ((r, reply) :: replies, w)

theorem serveAll_cons (r : Request) (rest : List Request) (w : World) :
    serveAll (r :: rest) w = ((r, (r.serve w).1) :: (serveAll rest (r.serve w).2).1,
      (serveAll rest (r.serve w).2).2) :=
  rfl

theorem serveAll_congr {rs : List Request} (hchanges : ∀ r ∈ rs, r.call.changes = true)
    (h : Interchangeable w v) :
    (serveAll rs w).1 = (serveAll rs v).1
      ∧ Interchangeable (serveAll rs w).2 (serveAll rs v).2 := by
  induction rs generalizing w v with
  | nil => exact ⟨rfl, h⟩
  | cons r rs ih =>
    obtain ⟨hreply, hworlds⟩ := Request.serve_congr (hchanges r (.head _)) h
    obtain ⟨hreplies, hend⟩ := ih (fun r hr => hchanges r (.tail _ hr)) hworlds
    rw [serveAll_cons, serveAll_cons, hreply, hreplies]
    exact ⟨rfl, hend⟩

theorem serveAll_perm {rs rs' : List Request} (hperm : rs.Perm rs') (hw : Ready w)
    (hchanges : ∀ r ∈ rs, r.call.changes = true)
    (hind : rs.Pairwise fun a b => a.call.Independent b.call) :
    (serveAll rs w).1.Perm (serveAll rs' w).1
      ∧ Interchangeable (serveAll rs w).2 (serveAll rs' w).2 := by
  -- the worlds need not be equal along the permutation, only interchangeable
  induction hperm generalizing w with
  | nil => exact ⟨.nil, .refl hw⟩
  | cons r _ ih =>
    obtain ⟨-, hrest⟩ := List.pairwise_cons.mp hind
    have hready := (Request.served (hchanges r (.head _)) hw).ready
    obtain ⟨hreplies, hend⟩ := ih hready (fun r hr => hchanges r (.tail _ hr)) hrest
    exact ⟨hreplies.cons _, hend⟩
  | swap a b rest =>
    have ha : a.call.changes = true := hchanges a (.tail _ (.head _))
    have hb : b.call.changes = true := hchanges b (.head _)
    have hba : b.call.Independent a.call := (List.pairwise_cons.mp hind).1 a (.head _)
    have hcomm := Request.serve_comm hb ha hba hw
    obtain ⟨hreplies, hend⟩ :=
      serveAll_congr (fun r hr => hchanges r (.tail _ (.tail _ hr))) hcomm
    simp only [serveAll_cons]
    rw [hreplies, Request.reply_after ha hb hba hw, ← Request.reply_after hb ha hba.symm hw]
    exact ⟨.swap _ _ _, hend⟩
  | trans hfirst _ ih ih' =>
    have hchanges' := fun r hr => hchanges r (hfirst.mem_iff.mpr hr)
    have hind' := (hfirst.pairwise_iff fun h => h.symm).mp hind
    obtain ⟨hreplies, hend⟩ := ih hw hchanges hind
    obtain ⟨hreplies', hend'⟩ := ih' hw hchanges' hind'
    exact ⟨hreplies.trans hreplies', hend.left, hend'.right, hend.maps.trans hend'.maps,
      hend.setting.trans hend'.setting⟩

/-- Any number of requests that are independent of each other may be served in any order. -/
theorem independent_requests_in_any_order {rs rs' : List Request} (hperm : rs.Perm rs')
    (hkeys : w.tables.Unique) (htag : w.nextTag = none)
    (hchanges : ∀ r ∈ rs, r.call.changes = true)
    (hind : rs.Pairwise fun a b => a.call.Independent b.call) :
    (serveAll rs w).1.Perm (serveAll rs' w).1
      ∧ (serveAll rs w).2.tables.SameRows (serveAll rs' w).2.tables := by
  obtain ⟨hreplies, hend⟩ := serveAll_perm hperm ⟨hkeys, htag⟩ hchanges hind
  exact ⟨hreplies, Tables.sameRows_of_maps hend.left.keys hend.right.keys hend.maps⟩

end
end OnAir.Channel
