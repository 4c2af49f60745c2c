import OnAir.Proofs.Service.Calls

/-!
# Runs of the services

Calls are made one after the other, by anybody and with any faults of the store; between two calls the
world may change in any way that leaves the tables alone. A call that succeeds in a change does one
thing to the maps behind the tables, and every other call leaves them as they are, so whatever the
maps have to do with the calls of the past is followed from call to call.
-/

namespace OnAir.Service

open Act (run)
open Channel (secretAt)
open Store (ChannelEntry Maps Tables)

-- -----------------------------------------------------------------------------
-- Runs
-- -----------------------------------------------------------------------------

structure Entry where
  world : World
  call : Call

/-- The runs of the services from empty tables, each with its calls in order and the world after
them. The store answers a change with its own tag. -/
inductive Run (publishDir : String) : List Entry → World → Prop
  | start (w : World) (hempty : w.tables = .empty) : Run publishDir [] w
  | move {past : List Entry} {w : World} (v : World) (hrun : Run publishDir past w)
      (htables : v.tables = w.tables) : Run publishDir past v
  | call {past : List Entry} {w : World} (call : Call) (hrun : Run publishDir past w)
      (htag : w.nextTag = none) :
      Run publishDir (past ++ [⟨w, call⟩]) (run (call.act publishDir) w).2

/-- The runs from any tables. -/
inductive Course (publishDir : String) (before : Tables) : List Entry → World → Prop
  | start (w : World) (hbefore : w.tables = before) : Course publishDir before [] w
  | move {past : List Entry} {w : World} (v : World) (hrun : Course publishDir before past w)
      (htables : v.tables = w.tables) : Course publishDir before past v
  | call {past : List Entry} {w : World} (call : Call) (hrun : Course publishDir before past w)
      (htag : w.nextTag = none) :
      Course publishDir before (past ++ [⟨w, call⟩]) (run (call.act publishDir) w).2

theorem run_iff {publishDir : String} {past : List Entry} {w : World} :
    Run publishDir past w ↔ Course publishDir .empty past w := by
  constructor
  · intro h
    induction h with
    | start w hempty => exact .start w hempty
    | move v _ htables ih => exact ih.move v htables
    | call call _ htag ih => exact ih.call call htag
  · intro h
    induction h with
    | start w hbefore => exact .start w hbefore
    | move v _ htables ih => exact ih.move v htables
    | call call _ htag ih => exact ih.call call htag

def Since (P Q : Entry → Prop) (past : List Entry) : Prop :=
  ∃ before e later, past = before ++ e :: later ∧ P e ∧ ∀ b ∈ later, ¬Q b

section
variable {P Q : Entry → Prop} {past : List Entry} {e : Entry}

theorem not_since_nil : ¬Since P Q [] := by
  rintro ⟨before, e, later, h, -⟩
  simp at h

theorem since_snoc : Since P Q (past ++ [e]) ↔ P e ∨ (¬Q e ∧ Since P Q past) := by
  constructor
  · rintro ⟨before, a, later, h, ha, hlater⟩
    rcases later.eq_nil_or_concat' with rfl | ⟨later, b, rfl⟩
    · obtain ⟨-, hlast⟩ := List.append_inj' h rfl
      cases hlast
      exact .inl ha
    · rw [← List.cons_append, ← List.append_assoc] at h
      obtain ⟨hpast, hlast⟩ := List.append_inj' h rfl
      cases hlast
      exact .inr ⟨hlater e (by simp), before, a, later, hpast, ha,
        fun b hb => hlater b (by simp [hb])⟩
  · rintro (he | ⟨he, before, a, later, rfl, ha, hlater⟩)
    · exact ⟨past, e, [], rfl, he, by simp⟩
    · refine ⟨before, a, later ++ [e], by simp, ha, fun b hb => ?_⟩
      rcases List.mem_append.mp hb with hb | hb
      · exact hlater b hb
      · exact List.mem_singleton.mp hb ▸ he

end

-- -----------------------------------------------------------------------------
-- Events
-- -----------------------------------------------------------------------------

section
variable (publishDir : String)

def Entry.Did (e : Entry) (call : Call) : Prop :=
  e.call = call ∧ ∃ answer, (run (call.act publishDir) e.world).1 = .ok answer

def Entry.Opens (who name : String) (e : Entry) : Prop :=
  e.Did publishDir (.owner (.text who) (.create (.text name)))
    ∨ e.Did publishDir (.owner (.text who) (.setAnnounce (.text name) true))

def Entry.Closes (who name : String) (e : Entry) : Prop :=
  e.Did publishDir (.owner (.text who) (.delete (.text name)))
    ∨ e.Did publishDir (.owner (.text who) (.setAnnounce (.text name) false))

def Entry.Switches (who : String) (announce : Bool) (e : Entry) : Prop :=
  e.Did publishDir (.owner (.text who) (.setOwnerAnnounce announce))

def Entry.Creates (name : String) (e : Entry) : Prop :=
  ∃ who, e.Did publishDir (.owner (.text who) (.create (.text name)))

def Entry.Puts (name : String) (e : Entry) : Prop :=
  ∃ picture, e.Did publishDir (.putThumbnail (.text name) picture)

def Pictured (name : String) (picture : Bytes) (time : Instant) : List Entry → Prop :=
  Since (fun e => e.Did publishDir (.putThumbnail (.text name) picture) ∧ e.world.storeClock = time)
    (Entry.Puts publishDir name)

/-- An owner has a channel that is announced by its own switch. -/
def Announced (who name : String) : List Entry → Prop :=
  Since (Entry.Opens publishDir who name) (Entry.Closes publishDir who name)

/-- An owner wants none of their channels announced. -/
def Silenced (who : String) : List Entry → Prop :=
  Since (Entry.Switches publishDir who false) (Entry.Switches publishDir who true)

end

-- -----------------------------------------------------------------------------
-- Turns
-- -----------------------------------------------------------------------------

/-- What a call makes of the maps. They stay as they are if it failed or only looked; otherwise it did
one thing, and its success is no event of any other kind. -/
inductive Turn (publishDir : String) (e : Entry) (m : Maps) : Maps → Prop
  | still (h : ∀ call, e.Did publishDir call → call.reads = true) : Turn publishDir e m m
  | create {who name : String}
      (hdid : ∀ call, e.Did publishDir call ↔ .owner (.text who) (.create (.text name)) = call)
      (hfree : m.channels name = none) :
      Turn publishDir e m ((m.setOwner who ((m.owners who).getD true)).setChannel name
        (some ⟨who, secretAt e.world.random, none, true⟩))
  | setAnnounce {who name : String} {announce : Bool}
      (hdid : ∀ call, e.Did publishDir call
        ↔ .owner (.text who) (.setAnnounce (.text name) announce) = call)
      (howns : m.owns who name = true) :
      Turn publishDir e m
        (m.setChannel name ((m.channels name).map fun entry => { entry with announce }))
  | delete {who name : String}
      (hdid : ∀ call, e.Did publishDir call ↔ .owner (.text who) (.delete (.text name)) = call) :
      Turn publishDir e m (if m.owns who name then m.setChannel name none else m)
  | setOwnerAnnounce {who : String} {announce : Bool}
      (hdid : ∀ call, e.Did publishDir call
        ↔ .owner (.text who) (.setOwnerAnnounce announce) = call) :
      Turn publishDir e m (m.setOwner who announce)
  | putThumbnail {name : String} {picture : Bytes}
      (hdid : ∀ call, e.Did publishDir call ↔ .putThumbnail (.text name) picture = call) :
      Turn publishDir e m (m.setThumb name picture e.world.storeClock)

theorem owns_iff {m : Maps} {who name : String} :
    m.owns who name = true ↔ ∃ entry, m.channels name = some entry ∧ entry.owner = who := by
  simp only [Maps.owns, Option.any_eq_true, decide_eq_true_eq]

section
variable {past : List Entry} {before : Tables} {w : World}

theorem Call.turn (publishDir : String) (hkeys : w.tables.Unique) (htag : w.nextTag = none)
    (call : Call) :
    Turn publishDir ⟨w, call⟩ w.tables.maps (run (call.act publishDir) w).2.tables.maps
      ∧ (run (call.act publishDir) w).2.tables.Unique := by
  have htells : Channel.TellsRows w := fun tag hset => nomatch htag.symm.trans hset
  have hends := call.act_ends publishDir hkeys htells
  rcases hrun : run (call.act publishDir) w with ⟨err | answer, w'⟩
  · have hsame : w'.tables = w.tables := (hends.error hrun).tables_eq
    rw [hsame]
    refine ⟨.still ?_, hkeys⟩
    rintro _ ⟨rfl, answer, hanswer⟩
    rw [hrun] at hanswer
    cases hanswer
  · obtain ⟨t, heffect, hleaves⟩ := hends.ok hrun
    have htables : w'.tables = t := hleaves.tables_eq
    rw [htables]
    refine ⟨?_, heffect.unique hkeys⟩
    have hdid (c : Call) : Entry.Did publishDir ⟨w, call⟩ c ↔ call = c :=
      and_iff_left_of_imp fun hc => ⟨answer, by simp only [← hc, hrun]⟩
    cases heffect with
    | read hreads => exact .still fun c hc => (hdid c).mp hc ▸ hreads
    | @create who name t ht =>
      rw [Tables.maps_addChannel ht, Tables.maps_addUser]
      refine .create hdid ?_
      have hfree : ¬(((w.tables.addUser who).1.maps.channels name).isSome = true) := fun htaken =>
        nomatch (Tables.addChannel?_eq_none.mpr htaken).symm.trans ht
      rw [Tables.maps_addUser] at hfree
      simpa [Maps.setOwner] using hfree
    | @setAnnounce who name announce howns =>
      rw [Tables.maps_setChannel, if_pos (howns htag)]
      exact .setAnnounce hdid (howns htag)
    | delete who name =>
      rw [Tables.maps_deleteChannel hkeys]
      exact .delete hdid
    | setOwnerAnnounce who announce =>
      rw [Tables.maps_setUser]
      exact .setOwnerAnnounce hdid
    | putThumbnail name picture =>
      rw [Tables.maps_setThumb]
      exact .putThumbnail hdid

theorem Course.keeps {publishDir : String} {P : List Entry → Maps → Prop}
    (hcourse : Course publishDir before past w) (hkeys : before.Unique) (hstart : P [] before.maps)
    (hturn : ∀ past e m m', P past m → Turn publishDir e m m' → P (past ++ [e]) m') :
    P past w.tables.maps ∧ w.tables.Unique := by
  induction hcourse with
  | start w hbefore =>
    rw [hbefore]
    exact ⟨hstart, hkeys⟩
  | move v _ htables ih =>
    rw [htables]
    exact ih
  | call call _ htag ih =>
    obtain ⟨hpast, hunique⟩ := ih
    obtain ⟨hcall, hunique'⟩ := call.turn publishDir hunique htag
    exact ⟨hturn _ _ _ _ hpast hcall, hunique'⟩

theorem Course.unique {publishDir : String} (hcourse : Course publishDir before past w)
    (hkeys : before.Unique) : w.tables.Unique :=
  (hcourse.keeps (P := fun _ _ => True) hkeys trivial fun _ _ _ _ _ _ => trivial).2

/-- What every turn makes true or keeps true, and some turns make false, was made true by a call of
the past and not made false since; or it was true from the start and never made false. -/
theorem Course.since_iff {publishDir : String} {S : Maps → Prop} {P Q : Entry → Prop}
    (hcourse : Course publishDir before past w) (hkeys : before.Unique)
    (hturn : ∀ e m m', Turn publishDir e m m' → (S m' ↔ P e ∨ ¬Q e ∧ S m)) :
    S w.tables.maps ↔ Since P Q past ∨ (∀ e ∈ past, ¬Q e) ∧ S before.maps := by
  refine (hcourse.keeps
    (P := fun past m => (S m ↔ Since P Q past ∨ (∀ e ∈ past, ¬Q e) ∧ S before.maps)) hkeys ?_ ?_).1
  · simp [not_since_nil]
  · intro past e m m' ih hstep
    rw [hturn e m m' hstep, since_snoc, ih]
    simp only [List.forall_mem_append, List.forall_mem_singleton]
    tauto

theorem Course.since {publishDir : String} {S : Maps → Prop} {P Q : Entry → Prop}
    (hcourse : Course publishDir before past w) (hkeys : before.Unique)
    (hturn : ∀ e m m', Turn publishDir e m m' → (S m' ↔ P e ∨ ¬Q e ∧ S m)) :
    (Since P Q past → S w.tables.maps)
      ∧ (¬S before.maps → (S w.tables.maps ↔ Since P Q past)) := by
  have h := hcourse.since_iff hkeys hturn
  refine ⟨fun hsince => h.mpr (.inl hsince), fun hstart => h.trans ?_⟩
  exact or_iff_left fun hkept => hstart hkept.2

end

-- -----------------------------------------------------------------------------
-- Turns seen from one owner and from one name
-- -----------------------------------------------------------------------------

inductive Fate (publishDir : String) (e : Entry) (name : String) :
    Option ChannelEntry → Option ChannelEntry → Prop
  | kept {c : Option ChannelEntry}
      (hcreate : ∀ who, ¬e.Did publishDir (.owner (.text who) (.create (.text name))))
      (hset : ∀ who announce,
        ¬e.Did publishDir (.owner (.text who) (.setAnnounce (.text name) announce)))
      (hdelete : ∀ entry, c = some entry →
        ¬e.Did publishDir (.owner (.text entry.owner) (.delete (.text name)))) :
      Fate publishDir e name c c
  | created {who : String}
      (hdid : ∀ call, e.Did publishDir call
        ↔ .owner (.text who) (.create (.text name)) = call) :
      Fate publishDir e name none (some ⟨who, secretAt e.world.random, none, true⟩)
  | set {entry : ChannelEntry} {announce : Bool}
      (hdid : ∀ call, e.Did publishDir call
        ↔ .owner (.text entry.owner) (.setAnnounce (.text name) announce) = call) :
      Fate publishDir e name (some entry) (some { entry with announce })
  | deleted {entry : ChannelEntry}
      (hdid : ∀ call, e.Did publishDir call
        ↔ .owner (.text entry.owner) (.delete (.text name)) = call) :
      Fate publishDir e name (some entry) none

section
variable {publishDir : String} {e : Entry} {m m' : Maps} {who name : String}

theorem Turn.fate (hturn : Turn publishDir e m m') (name : String) :
    Fate publishDir e name (m.channels name) (m'.channels name) := by
  cases hturn with
  | still he =>
    exact .kept (fun _ h => nomatch he _ h) (fun _ _ h => nomatch he _ h)
      fun _ _ h => nomatch he _ h
  | @create who n hdid hfree =>
    by_cases hn : name = n
    · subst hn
      rw [hfree]
      simpa [Maps.setChannel] using Fate.created hdid
    · simpa [Maps.setChannel, Maps.setOwner, hn] using
        Fate.kept (by simp [hdid, Ne.symm hn]) (by simp [hdid]) (by simp [hdid])
  | @setAnnounce who n announce hdid howns =>
    by_cases hn : name = n
    · subst hn
      obtain ⟨entry, hentry, rfl⟩ := owns_iff.mp howns
      simpa [Maps.setChannel, hentry] using Fate.set hdid
    · simpa [Maps.setChannel, hn] using
        Fate.kept (by simp [hdid]) (by simp [hdid, Ne.symm hn]) (by simp [hdid])
  | @delete who n hdid =>
    by_cases hn : name = n
    · subst hn
      split
      next howns =>
        obtain ⟨entry, hentry, rfl⟩ := owns_iff.mp howns
        simpa [Maps.setChannel, hentry] using Fate.deleted hdid
      next howns =>
        refine .kept (by simp [hdid]) (by simp [hdid]) fun entry hentry hdeleted => howns ?_
        cases (hdid _).mp hdeleted
        exact owns_iff.mpr ⟨entry, hentry, rfl⟩
    · have hkept : Fate publishDir e name (m.channels name) (m.channels name) :=
        .kept (by simp [hdid]) (by simp [hdid]) (by simp [hdid, Ne.symm hn])
      split
      · simpa [Maps.setChannel, hn] using hkept
      · exact hkept
  | setOwnerAnnounce hdid | putThumbnail hdid =>
    exact .kept (by simp [hdid]) (by simp [hdid]) (by simp [hdid])

/-- Only its owner's switch says whether an owner keeps silent; a new channel does not reset it. -/
theorem Turn.silent_iff (hturn : Turn publishDir e m m') (who : String) :
    m'.owners who = some false ↔ e.Switches publishDir who false
      ∨ ¬e.Switches publishDir who true ∧ m.owners who = some false := by
  cases hturn with
  | still he =>
    have hnone (announce : Bool) : ¬e.Switches publishDir who announce := fun h => nomatch he _ h
    simp [hnone]
  | @create a name hdid _ =>
    by_cases ha : who = a
    · subst ha
      cases m.owners who <;> simp [Entry.Switches, hdid, Maps.setChannel, Maps.setOwner]
    · simp [Entry.Switches, hdid, Maps.setChannel, Maps.setOwner, ha]
  | setAnnounce hdid _ => simp [Entry.Switches, hdid, Maps.setChannel]
  | delete hdid => split <;> simp [Entry.Switches, hdid, Maps.setChannel]
  | @setOwnerAnnounce a announce hdid =>
    by_cases ha : who = a
    · cases announce <;> simp [Entry.Switches, hdid, Maps.setOwner, ha]
    · simp [Entry.Switches, hdid, Maps.setOwner, ha, Ne.symm ha]
  | putThumbnail hdid => simp [Entry.Switches, hdid, Maps.setThumb]

end

-- -----------------------------------------------------------------------------
-- A call every hour
-- -----------------------------------------------------------------------------

def fresh : World :=
  Store.holding .empty

def hourly : List Call → List Entry × World → List Entry × World
  | [], s => s
  | call :: calls, (past, w) =>
    let w' := (run (call.act "") w).2
    hourly calls (past ++ [⟨w, call⟩],
      { w' with storeClock := w.storeClock + 3600000000, nextTag := none })

theorem exists_later (first : List Call) (call : Call) (rest : List Call)
    (s : List Entry × World) : ∃ later, (∀ e ∈ later, e.call ∈ rest)
      ∧ (hourly (first ++ call :: rest) s).1
        = (hourly first s).1 ++ ⟨(hourly first s).2, call⟩ :: later := by
  induction first generalizing s with
  | nil =>
    induction rest generalizing call s with
    | nil => exact ⟨[], fun e he => absurd he List.not_mem_nil, rfl⟩
    | cons next rest ih =>
      obtain ⟨later, hcalls, hpast⟩ := ih next (hourly [call] s)
      have hnext : ∀ e ∈ (⟨(hourly [call] s).2, next⟩ : Entry) :: later,
          e.call ∈ next :: rest := by
        simp only [List.forall_mem_cons]
        exact ⟨.head _, fun e he => .tail _ (hcalls e he)⟩
      exact ⟨_, hnext, hpast.trans (by simp [hourly])⟩
  | cons a first ih => exact ih _

theorem Course.hourly {before : Tables} (calls : List Call) {s : List Entry × World}
    (h : Course "" before s.1 s.2) (htag : s.2.nextTag = none) :
    Course "" before (Service.hourly calls s).1 (Service.hourly calls s).2 := by
  induction calls generalizing s with
  | nil => exact h
  | cons call calls ih => exact ih ((h.call call htag).move _ rfl) rfl

theorem Run.hourly (calls : List Call) {s : List Entry × World} (h : Run "" s.1 s.2)
    (htag : s.2.nextTag = none) :
    Run "" (Service.hourly calls s).1 (Service.hourly calls s).2 :=
  run_iff.mpr ((run_iff.mp h).hourly calls htag)

end OnAir.Service
