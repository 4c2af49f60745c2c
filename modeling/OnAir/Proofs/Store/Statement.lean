import OnAir.Proofs.World
import OnAir.Store.Statement

/-!
# Statements of a store without faults

Where no fault is to come, a statement whose texts can be stored does to the tables what it says,
and nothing else; a transaction that ends with an error does nothing; and a connection comes and
goes without a trace in the tables.
-/

namespace OnAir.Store

open Act (run run_bind run_handle)

/-- A store that raises nothing of its own: no fault is to come, the pool is open, and a change is
answered with its own tag. -/
structure Calm (w : World) : Prop where
  faults : w.faults = []
  isOpen : w.current.isSome = true
  tag : w.nextTag = none

def holding (tables : Tables) : World :=
  ⟨tables, 0, 0, ⟨fun _ => 0, 0⟩, [], [⟨"", 1, 4, .ofRat 30, 0, []⟩], some 0, [], 0, none,
    ⟨.fault ⟨false, "", ""⟩, .fault ⟨false, "", ""⟩⟩, none, [], [],
    ⟨.wrapping, fun _ => .ofInt 0, fun _ => ""⟩⟩

theorem calm_holding (tables : Tables) : Calm (holding tables) :=
  ⟨rfl, rfl, rfl⟩

theorem Calm.setTables {w : World} (hw : Calm w) (t : Tables) : Calm { w with tables := t } :=
  ⟨hw.faults, hw.isOpen, hw.tag⟩

/-- The second world has these tables, and other connections and log lines perhaps; in everything
else it is the first one. -/
def Follows (w : World) (tables : Tables) (w' : World) : Prop :=
  w' = { w with tables, pools := w'.pools, out := w'.out, acquired := w'.acquired, log := w'.log }

def Tells {ε α : Type} (act act' : Act ε α) : Prop :=
  ∀ w, ∃ log, run act w = ((run act' w).1, { (run act' w).2 with log })

theorem logged_tells {α : Type} (query : Query) (body : Act StoreError α) :
    Tells (logged query body) body :=
  fun _ => ⟨_, rfl⟩

theorem orRollBack_tells {α : Type} (body : Act StoreError α) : Tells (orRollBack body) body := by
  intro w
  rw [orRollBack, run_handle]
  rcases run body w with ⟨e | a, v⟩
  · exact ⟨_, rfl⟩
  · exact ⟨v.log, rfl⟩

def Yields {ε α : Type} (act : Act ε α) (w : World) (result : Except ε α) (tables : Tables) :
    Prop :=
  ∃ w', run act w = (result, w') ∧ Follows w tables w'

section
variable {w v w' : World} {t t' : Tables}

namespace Follows

theorem refl (w : World) : Follows w w.tables w :=
  rfl

theorem trans (h : Follows w t v) (h' : Follows v t' w') : Follows w t' w' := by
  rw [Follows, h'] at *
  rw [h]

theorem tables_eq (h : Follows w t w') : w'.tables = t := by
  rw [h]

theorem setTables (h : Follows w t w') (t' : Tables) :
    Follows w t' { w' with tables := t' } := by
  rw [Follows, h]

theorem setLog (h : Follows w t w') (log : List Log.Entry) : Follows w t { w' with log } := by
  rw [Follows, h]

theorem clock_eq (h : Follows w t w') : w'.clock = w.clock := by
  rw [h]

theorem storeClock_eq (h : Follows w t w') : w'.storeClock = w.storeClock := by
  rw [h]

theorem random_eq (h : Follows w t w') : w'.random = w.random := by
  rw [h]

theorem runtime_eq (h : Follows w t w') : w'.runtime = w.runtime := by
  rw [h]

theorem calm (h : Follows w t w') (hw : Calm w) : Calm w' where
  faults := by rw [h, hw.faults]
  isOpen := by rw [h, hw.isOpen]
  tag := by rw [h, hw.tag]

end Follows

namespace Yields

variable {ε ε' α β : Type} {act : Act ε α} {f : α → Act ε β} {a : α} {e : ε}
  {result : Except ε β}

theorem result_eq {result : Except ε α} (h : Yields act w result t) : (run act w).1 = result := by
  obtain ⟨w', hrun, -⟩ := h
  rw [hrun]

theorem bind (h : Yields act w (.ok a) t) (hf : ∀ v, Follows w t v → Yields (f a) v result t') :
    Yields (act >>= f) w result t' := by
  obtain ⟨v, hrun, hv⟩ := h
  obtain ⟨w', hrun', hw'⟩ := hf v hv
  refine ⟨w', ?_, hv.trans hw'⟩
  rw [run_bind, hrun]
  exact hrun'

theorem bind_error (h : Yields act w (.error e) t) : Yields (act >>= f) w (.error e) t := by
  obtain ⟨v, hrun, hv⟩ := h
  exact ⟨v, by rw [run_bind, hrun], hv⟩

theorem map {f : α → β} {result : Except ε α} (h : Yields act w result t) :
    Yields (f <$> act) w (result.map f) t := by
  obtain ⟨v, hrun, hv⟩ := h
  refine ⟨v, ?_, hv⟩
  rw [map_eq_pure_bind, run_bind, hrun]
  cases result <;> rfl

theorem mapError {result : Except ε α} (f : ε → ε') (h : Yields act w result t) :
    Yields (act.mapError f) w (result.mapError f) t := by
  obtain ⟨v, hrun, hv⟩ := h
  exact ⟨v, by rw [Act.run_mapError, hrun], hv⟩

theorem handle {onError : ε → Act ε' α} (h : Yields act w (.ok a) t) :
    Yields (act.handle onError) w (.ok a) t := by
  obtain ⟨v, hrun, hv⟩ := h
  exact ⟨v, by rw [run_handle, hrun], hv⟩

theorem handle_error {onError : ε → Act ε' α} {result : Except ε' α}
    (h : Yields act w (.error e) t) (herror : ∀ v, Follows w t v → Yields (onError e) v result t') :
    Yields (act.handle onError) w result t' := by
  obtain ⟨v, hrun, hv⟩ := h
  obtain ⟨w', hrun', hw'⟩ := herror v hv
  refine ⟨w', ?_, hv.trans hw'⟩
  rw [run_handle, hrun]
  exact hrun'

theorem pure (a : α) (h : w.tables = t) : Yields (pure a : Act ε α) w (.ok a) t :=
  ⟨w, rfl, h ▸ .refl w⟩

theorem fail (e : ε) (h : w.tables = t) : Yields (Act.fail e : Act ε α) w (.error e) t :=
  ⟨w, rfl, h ▸ .refl w⟩

theorem note {level : Log.Level} {message : String} (h : w.tables = t) :
    Yields (Act.note level message : Act ε Unit) w (.ok ()) t :=
  ⟨_, rfl, h ▸ rfl⟩

theorem look {g : World → α} {f : α → Act ε β} (h : Yields (f (g w)) w result t) :
    Yields (Act.look g >>= f) w result t :=
  h

theorem tells {act' : Act ε α} {result : Except ε α} (hact : Tells act' act)
    (h : Yields act w result t) : Yields act' w result t := by
  obtain ⟨v, hrun, hv⟩ := h
  obtain ⟨log, hrun'⟩ := hact w
  rw [hrun] at hrun'
  exact ⟨_, hrun', hv.setLog log⟩

end Yields

-- -----------------------------------------------------------------------------
-- Switches
-- -----------------------------------------------------------------------------

namespace Tables

def ownerAnnounce? (t : Tables) (owner : String) : Option Bool :=
  (t.userNamed? owner).map (·.announce)

def announced (t : Tables) (channel : ChannelRow) : Bool :=
  channel.announce && (t.ownerAnnounce? channel.owner).getD false

theorem and?_getD (a : Bool) (b : Option Bool) :
    (and? (some a) b).getD false = (a && b.getD false) := by
  cases a <;> rcases b with _ | _ | _ <;> rfl

theorem announcedThumbs_eq (t : Tables) :
    t.announcedThumbs = Text.sortBy (·.name) (t.thumbs.filter fun thumb =>
      (t.channelNamed? thumb.name).any t.announced) := by
  unfold announcedThumbs channelThumbs
  refine congrArg (Text.sortBy fun row : ThumbRow => row.name) ?_
  induction t.thumbs with
  | nil => rfl
  | cons thumb rest ih =>
    cases hchannel : t.channelNamed? thumb.name with
    | none => simpa [hchannel] using ih
    | some channel =>
      have hcounted : (and? (some channel.announce)
          ((t.userNamed? channel.owner).map (·.announce))).getD false = t.announced channel :=
        and?_getD _ _
      cases hannounced : t.announced channel <;>
        simpa [List.filter_cons, hchannel, hcounted, hannounced] using ih

end Tables

-- -----------------------------------------------------------------------------
-- Texts
-- -----------------------------------------------------------------------------

theorem checkStorable_ok {text : RawText} {u : Unit} :
    checkStorable text = .ok u ↔ ∃ s, text = .text s ∧ 0 ∉ text.codes := by
  simp only [checkStorable, List.contains_iff_mem]
  split
  next h => simp [h]
  next h => cases text <;> simp [RawText.proper, h]

theorem zero_mem_codes {s : String} : 0 ∈ RawText.codes (.text s) ↔ '\x00' ∈ s.toList := by
  rw [RawText.codes, List.mem_map]
  constructor
  · rintro ⟨c, hc, hzero⟩
    have hchar : c = '\x00' := Char.toNat_inj.mp hzero
    rwa [← hchar]
  · intro h
    exact ⟨_, h, rfl⟩

theorem checkStorable_text {s : String} :
    checkStorable (.text s) = .ok () ↔ '\x00' ∉ s.toList := by
  simp [checkStorable_ok, zero_mem_codes]

theorem storable_of_mem {texts : List RawText} (h : texts.forM checkStorable = .ok ())
    {text : RawText} (hmem : text ∈ texts) : checkStorable text = .ok () :=
  ok_of_mem h hmem

theorem exists_text {texts : List RawText} (h : texts.forM checkStorable = .ok ())
    {text : RawText} (hmem : text ∈ texts) : ∃ s, text = .text s :=
  (checkStorable_ok.mp (storable_of_mem h hmem)).imp fun _ hs => hs.1

-- -----------------------------------------------------------------------------
-- Single statements
-- -----------------------------------------------------------------------------

variable {α : Type} {query : Query} {refusal : Refusal}

theorem check_ok (h : query.texts.forM checkStorable = .ok ()) : query.check refusal = .ok () := by
  rw [Query.check, h]
  rfl

theorem check_error {e : TextError} (h : query.texts.forM checkStorable = .error e) :
    query.check refusal = .error (refusal.error query.arguments e) := by
  rw [Query.check, h]
  rfl

theorem texts_of_check {u : Unit} (h : query.check refusal = .ok u) :
    query.texts.forM checkStorable = .ok () := by
  cases htexts : query.texts.forM checkStorable with
  | ok u => rfl
  | error e =>
    rw [check_error htexts] at h
    cases h

theorem pass_run (hw : Calm w) (event : Event) : run (pass event) w = (.ok (), w) := by
  obtain ⟨hfaults, -, -⟩ := hw
  cases w
  subst hfaults
  rfl

theorem send_run (hw : Calm w) (query : Query) :
    run (send query) w = (query.check w.runtime.refusal, w) := by
  simp only [send, run_bind, pass_run hw, Act.run_look, Act.run_ofExcept]

theorem select_yields (hw : Calm w) (query : Query) (answer : Tables → α) :
    Yields (select query answer) w
      ((query.check w.runtime.refusal).map fun _ => answer w.tables) w.tables := by
  refine .tells (logged_tells query _) ⟨w, ?_, .refl w⟩
  rw [run_bind, send_run hw]
  cases query.check w.runtime.refusal <;> rfl

theorem takeTag_run (hw : Calm w) (own : String) : run (takeTag own) w = (.ok own, w) := by
  obtain ⟨-, -, htag⟩ := hw
  cases w
  subst htag
  rfl

section
variable {verb : String} {update : Tables → Instant → Option (Tables × Nat)}

theorem execute_refused {e : StoreError} (hw : Calm w)
    (h : query.check w.runtime.refusal = .error e) :
    Yields (execute query verb update) w (.error e) w.tables := by
  refine .tells (logged_tells query _) ⟨w, ?_, .refl w⟩
  rw [run_bind, send_run hw, h]

theorem execute_duplicate (query : Query) (hw : Calm w)
    (h : query.texts.forM checkStorable = .ok ())
    (hupdate : update w.tables w.storeClock = none) :
    Yields (execute query verb update) w (.error .duplicate) w.tables := by
  refine .tells (logged_tells query _) ⟨w, ?_, .refl w⟩
  rw [run_bind, send_run hw, check_ok h]
  simp only [run_bind, Act.run_look, hupdate, Act.run_fail]

theorem execute_yields {count : Nat} (query : Query) (hw : Calm w)
    (h : query.texts.forM checkStorable = .ok ())
    (hupdate : update w.tables w.storeClock = some (t, count)) :
    Yields (execute query verb update) w (.ok (verb ++ " " ++ toString count)) t := by
  refine .tells (logged_tells query _) ⟨{ w with tables := t }, ?_, rfl⟩
  rw [run_bind, send_run hw, check_ok h]
  simp only [run_bind, Act.run_look, hupdate, Act.run_change, takeTag_run (hw.setTables t)]

end

-- -----------------------------------------------------------------------------
-- Transactions and connections
-- -----------------------------------------------------------------------------

theorem bracket_yields {body : Act StoreError Unit} (text : String)
    (hbody : run body w = (.ok (), w)) : Yields (bracket text body) w (.ok ()) w.tables :=
  .tells (logged_tells _ body) ⟨w, hbody, .refl w⟩

theorem transaction_yields {body : Act StoreError α} {a : α} (hw : Calm w)
    (hbody : ∀ v, Calm v → Follows w w.tables v → Yields body v (.ok a) t) :
    Yields (transaction body) w (.ok a) t := by
  refine (bracket_yields "BEGIN;" (pass_run hw .begin)).bind fun v hv => .look ?_
  have hcalm := hv.calm hw
  refine .handle (.bind (.tells (orRollBack_tells _) (hbody v hcalm hv)) fun v' hv' => ?_)
  refine .bind (bracket_yields "COMMIT;" (pass_run (hv'.calm hcalm) .commit)) fun _ hend => ?_
  exact .pure a (hend.tables_eq.trans hv'.tables_eq)

theorem transaction_failed {body : Act StoreError α} {e : StoreError} (hw : Calm w)
    (hbody : ∀ v, Calm v → Follows w w.tables v → ∃ t, Yields body v (.error e) t) :
    Yields (transaction body) w (.error e) w.tables := by
  refine (bracket_yields "BEGIN;" (pass_run hw .begin)).bind fun v hv => .look ?_
  obtain ⟨t, hfailed⟩ := hbody v (hv.calm hw) hv
  have hrolled : Yields (orRollBack body) v (.error e) t := .tells (orRollBack_tells _) hfailed
  refine .handle_error hrolled.bind_error fun v' hv' => ?_
  refine ⟨{ v' with tables := v.tables }, rfl, ?_⟩
  rw [hv.tables_eq]
  exact (Follows.refl v').setTables w.tables

theorem acquire_run (hw : Calm w) :
    ∃ conn v, run acquire w = (.ok conn, v) ∧ Follows w w.tables v := by
  obtain ⟨number, hnumber⟩ := Option.isSome_iff_exists.mp hw.isOpen
  let conn : Connection := ⟨w.acquired, number⟩
  refine ⟨conn, { w with acquired := w.acquired + 1, out := w.out ++ [conn] }, ?_, rfl⟩
  simp only [acquire, requirePool, run_bind, Act.run_look, hnumber, Act.run_pure, pass_run hw,
    Act.run_of, conn]

theorem handBack_run (hw : Calm w) (conn : Connection) :
    ∃ v, run (handBack conn) w = (.ok (), v) ∧ Follows w w.tables v := by
  obtain ⟨number, hnumber⟩ := Option.isSome_iff_exists.mp hw.isOpen
  let back : World :=
    { changePool number (fun p => { p with handedBack := p.handedBack ++ [conn] }) w with
      out := w.out.erase conn }
  have hback : Calm back := ⟨hw.faults, hw.isOpen, hw.tag⟩
  refine ⟨back, ?_, rfl⟩
  simp only [handBack, requirePool, run_bind, Act.run_look, hnumber, Act.run_pure, Act.run_change]
  exact pass_run hback .release

theorem release_run {ε : Type} (hw : Calm w) (conn : Connection) :
    ∃ v, run (release conn : Act ε Unit) w = (.ok (), v) ∧ Follows w w.tables v := by
  obtain ⟨v, hback, hv⟩ := handBack_run hw conn
  refine ⟨v, ?_, hv⟩
  simp only [release, run_bind, Act.run_attempt, hback, Act.run_pure]

theorem withConnection_yields {body : Act StoreError α} {result : Except StoreError α}
    (hw : Calm w) (hbody : ∀ v, Calm v → Follows w w.tables v → Yields body v result t) :
    Yields (withConnection body) w result t := by
  obtain ⟨conn, v, hacquire, hv⟩ := acquire_run hw
  obtain ⟨v', hrun, hv'⟩ := hbody v (hv.calm hw) hv
  obtain ⟨w', hrelease, hw'⟩ :=
    release_run (ε := StoreError) (hv'.calm (hv.calm hw)) conn
  refine ⟨w', ?_, (hv.trans hv').trans (hv'.tables_eq ▸ hw')⟩
  rw [withConnection, run_bind, hacquire]
  simp only [run_bind, Act.run_attempt, hrun, hrelease, Act.run_ofExcept]

end
end OnAir.Store
