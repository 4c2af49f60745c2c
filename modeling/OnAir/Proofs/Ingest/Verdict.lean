import OnAir.Ingest
import OnAir.Proofs.Channel.Outcome
import OnAir.Proofs.Text.Utf8

/-!
# Who is let in

Over a store that raises nothing of its own, an attempt to publish is decided by the rows of the
channels alone: it is let in if there is a row that it fits, with what is told about this row, and
otherwise it is refused, for whatever reason, in one and the same way. Only texts that no channel
could have come to another end.
-/

namespace OnAir

open Act (run)
open Channel (Authorization Column Registry.find Registry.find_broken Registry.find_found
  Registry.find_missing Registry.find_zero Registry.row?)
open Store (Calm ChannelRow Tables Yields checkStorable)

-- -----------------------------------------------------------------------------
-- Rows by their keys
-- -----------------------------------------------------------------------------

namespace Store.Tables

/-- No two channels have one name or one FTL number. -/
structure Findable (t : Tables) : Prop where
  names : (t.channels.map (·.name)).Nodup
  ftlIds : (t.channels.filterMap (·.ftlId)).Nodup

theorem Unique.findable {t : Tables} (h : t.Unique) : t.Findable :=
  ⟨h.names, h.ftlIds⟩

end Store.Tables

/-- A row has this value in a column; a number that is not given is no value. -/
def Channel.Column.Holds : Column → String → ChannelRow → Prop
  | .name, value, row => row.name = value
  | .ftlId, value, row => row.ftlId = some value

theorem Channel.row?_eq_some_iff {t : Tables} (h : t.Findable) {column : Column} {value : String}
    {row : ChannelRow} :
    Registry.row? column value t = some row ↔ row ∈ t.channels ∧ column.Holds value row := by
  cases column with
  | name => exact Store.find?_eq_some h.names
  | ftlId => exact Tables.channelWithFtlId?_eq_some h.ftlIds

theorem Channel.holds_of_row? {t : Tables} {column : Column} {value : String} {row : ChannelRow}
    (h : Registry.row? column value t = some row) : row ∈ t.channels ∧ column.Holds value row := by
  cases column with
  | name =>
    have hname : row.name = value := by simpa using List.find?_some h
    exact ⟨List.mem_of_find?_eq_some h, hname⟩
  | ftlId =>
    have hid : row.ftlId = some value := by simpa using List.find?_some h
    exact ⟨List.mem_of_find?_eq_some h, hid⟩

theorem Channel.Column.Holds.unique {t : Tables} (hkeys : t.Findable) {column : Column}
    {value : String} {row other : ChannelRow} (hrow : row ∈ t.channels) (hother : other ∈ t.channels)
    (h : column.Holds value row) (h' : column.Holds value other) : row = other := by
  have hfound := (Channel.row?_eq_some_iff hkeys).mpr ⟨hrow, h⟩
  have hfound' := (Channel.row?_eq_some_iff hkeys).mpr ⟨hother, h'⟩
  exact Option.some.inj (hfound.symm.trans hfound')

namespace Ingest

-- -----------------------------------------------------------------------------
-- Attempts
-- -----------------------------------------------------------------------------

inductive Attempt
  | key (name given : RawText)
  | url (address : RawText)
  | challenge (ftlId : RawText) (nonce digest : Bytes)

namespace Attempt

def act : Attempt → Act Error Authorization
  | key name given => byKey name given
  | url address => byUrl address
  | challenge ftlId nonce digest => byChallenge ftlId nonce digest

/-- An attempt fits a channel: it knows the secret, or answers the challenge with a hash that is
keyed by the secret. -/
def Fits : Attempt → ChannelRow → Prop
  | key name given, row => name = .text row.name ∧ given = .text row.secret
  | url address, row => credentials address = .ok (.text row.name, .text row.secret)
  | challenge ftlId nonce digest, row => (∃ id, row.ftlId = some id ∧ ftlId = .text id)
    ∧ digest = Hmac.mac Hmac.sha512 (Utf8.ofString row.secret) nonce

/-- The texts of an attempt could be those of a channel: what is looked for can be stored, the key is
text, and a URL can be split. -/
def Readable : Attempt → Prop
  | key name given => checkStorable name = .ok () ∧ ∃ secret, given = .text secret
  | url address => ∃ name given, credentials address = .ok (name, given)
    ∧ checkStorable name = .ok () ∧ ∃ secret, given = .text secret
  | challenge ftlId _ _ => checkStorable ftlId = .ok ()

end Attempt

def authorization (t : Tables) (row : ChannelRow) : Authorization :=
  ⟨row.owner, row.name, t.announced row⟩

/-- The refusal of all attempts. -/
def refusal : Error :=
  .service (.failure .userNotFound)

/-- The result is decided by the rows: a row that fits is told about, and without one the attempt is
refused. -/
inductive Decided (t : Tables) (fits : ChannelRow → Prop) : Except Error Authorization → Prop
  | admitted {row : ChannelRow} (hrow : row ∈ t.channels) (hfits : fits row) :
    Decided t fits (.ok (authorization t row))
  | refused (hnone : ∀ row ∈ t.channels, ¬fits row) : Decided t fits (.error refusal)

theorem Decided.refused_of {t : Tables} {fits : ChannelRow → Prop}
    {result : Except Error Authorization} (h : Decided t fits result)
    (hnone : ∀ row ∈ t.channels, ¬fits row) : result = .error refusal := by
  cases h with
  | admitted hrow hfits => exact absurd hfits (hnone _ hrow)
  | refused _ => rfl

theorem Attempt.Fits.unique {t : Tables} (hkeys : t.Findable) {attempt : Attempt}
    {row other : ChannelRow} (hrow : row ∈ t.channels) (hother : other ∈ t.channels)
    (h : attempt.Fits row) (h' : attempt.Fits other) : row = other := by
  suffices hheld : ∃ column s, Column.Holds column s row ∧ column.Holds s other by
    obtain ⟨column, s, hholds, hholds'⟩ := hheld
    exact hholds.unique hkeys hrow hother hholds'
  cases attempt with
  | key name given => exact ⟨.name, row.name, rfl, RawText.text.inj (h'.1.symm.trans h.1)⟩
  | url address =>
    have hpair := Except.ok.inj (h'.symm.trans h)
    exact ⟨.name, row.name, rfl, RawText.text.inj (congrArg Prod.fst hpair)⟩
  | challenge ftlId nonce digest =>
    obtain ⟨⟨id, hid, rfl⟩, -⟩ := h
    obtain ⟨⟨_, hid', heq⟩, -⟩ := h'
    cases heq
    exact ⟨.ftlId, id, hid, hid'⟩

theorem Decided.admitted_of {t : Tables} (hkeys : t.Findable) {attempt : Attempt}
    {result : Except Error Authorization} {row : ChannelRow} (h : Decided t attempt.Fits result)
    (hrow : row ∈ t.channels) (hfits : attempt.Fits row) : result = .ok (authorization t row) := by
  cases h with
  | admitted hother hfits' => rw [Attempt.Fits.unique hkeys hother hrow hfits' hfits]
  | refused hnone => exact absurd hfits (hnone row hrow)

variable {w : World} {column : Column} {value : RawText}

-- -----------------------------------------------------------------------------
-- Looking up
-- -----------------------------------------------------------------------------

theorem lookUp_found {row : ChannelRow} (hw : Calm w) (hvalue : checkStorable value = .ok ())
    (hrow : Registry.row? column value.filled w.tables = some row) :
    Yields (lookUp column value) w (.ok (some (authorization w.tables row), row.secret))
      w.tables :=
  (Registry.find_found column hw hvalue hrow).map.handle

theorem lookUp_missing (hw : Calm w) (hvalue : checkStorable value = .ok ())
    (hrow : Registry.row? column value.filled w.tables = none) :
    Yields (lookUp column value) w (.ok (none, standIn)) w.tables :=
  (Registry.find_missing column hw hvalue hrow).map.handle_error fun _ hv => .pure _ hv.tables_eq

theorem lookUp_zero (column : Column) (hw : Calm w) (h : 0 ∈ value.codes) :
    Yields (lookUp column value) w (.error (.service (.failure .store))) w.tables :=
  (Registry.find_zero column hw h).map.handle_error fun _ hv => .fail _ hv.tables_eq

-- -----------------------------------------------------------------------------
-- Deciding
-- -----------------------------------------------------------------------------

/-- What becomes of an attempt once the row that it names is looked for: the secret in the row
matches, or it is refused like all others. -/
def verdict (t : Tables) (row? : Option ChannelRow) (secretMatches : String → Bool) :
    Except Error Authorization :=
  match row? with
  | some row => if secretMatches row.secret then .ok (authorization t row) else .error refusal
  | none => .error refusal

theorem verdict_decided {t : Tables} (hkeys : t.Findable) {s : String} {fits : ChannelRow → Prop}
    {secretMatches : String → Bool}
    (hfits : ∀ row, fits row ↔ column.Holds s row ∧ secretMatches row.secret = true) :
    Decided t fits (verdict t (Registry.row? column s t) secretMatches) := by
  cases hrow : Registry.row? column s t with
  | none =>
    refine .refused fun row hmem hfit => ?_
    have hfound := (Channel.row?_eq_some_iff hkeys).mpr ⟨hmem, ((hfits row).mp hfit).1⟩
    cases hrow.symm.trans hfound
  | some row =>
    obtain ⟨hmem, hholds⟩ := (Channel.row?_eq_some_iff hkeys).mp hrow
    by_cases hmatch : secretMatches row.secret = true
    · rw [verdict, if_pos hmatch]
      exact .admitted hmem ((hfits row).mpr ⟨hholds, hmatch⟩)
    · rw [verdict, if_neg hmatch]
      refine .refused fun other hother hfit => ?_
      obtain ⟨hholds', hmatch'⟩ := (hfits other).mp hfit
      have hfound := (Channel.row?_eq_some_iff hkeys).mpr ⟨hother, hholds'⟩
      cases hrow.symm.trans hfound
      exact hmatch hmatch'

theorem byKey_yields {name key : String} (hw : Calm w)
    (hname : checkStorable (.text name) = .ok ()) :
    Yields (byKey (.text name) (.text key)) w
      (verdict w.tables (Registry.row? .name name w.tables) fun secret => key = secret)
      w.tables := by
  cases hrow : Registry.row? .name name w.tables with
  | none => exact (lookUp_missing hw hname hrow).bind fun _ hv => .fail _ hv.tables_eq
  | some row =>
    refine (lookUp_found hw hname hrow).bind fun v hv => ?_
    change Yields (if Utf8.ofString key = Utf8.ofString row.secret then
      pure (authorization w.tables row) else refuse) v _ w.tables
    by_cases hkey : key = row.secret
    · rw [if_pos (congrArg Utf8.ofString hkey), verdict, if_pos (decide_eq_true hkey)]
      exact .pure _ hv.tables_eq
    · rw [if_neg (hkey ∘ Utf8.ofString_injective), verdict, if_neg (by simpa using hkey)]
      exact .fail _ hv.tables_eq

theorem byChallenge_yields {ftlId : String} {nonce digest : Bytes} (hw : Calm w)
    (hid : checkStorable (.text ftlId) = .ok ()) :
    Yields (byChallenge (.text ftlId) nonce digest) w
      (verdict w.tables (Registry.row? .ftlId ftlId w.tables)
        fun secret => challengeDigest secret nonce = digest) w.tables := by
  cases hrow : Registry.row? .ftlId ftlId w.tables with
  | none => exact (lookUp_missing hw hid hrow).bind fun _ hv => .fail _ hv.tables_eq
  | some row =>
    refine (lookUp_found hw hid hrow).bind fun v hv => ?_
    rw [verdict]
    by_cases hdigest : challengeDigest row.secret nonce = digest
    · simp only [hdigest, decide_true, if_true]
      exact .pure _ hv.tables_eq
    · simp only [hdigest, decide_false, Bool.false_eq_true, if_false]
      exact (Yields.note hv.tables_eq).bind fun _ hnote => .fail _ hnote.tables_eq

theorem byUrl_eq {address name given : RawText} (h : credentials address = .ok (name, given)) :
    byUrl address = byKey name given := by
  rw [byUrl, h]
  rfl

theorem byUrl_error {address : RawText} {e : Url.SplitError} (h : credentials address = .error e) :
    byUrl address = Act.fail (.url e) := by
  rw [byUrl, h]
  rfl

theorem byKey_decided {name given : RawText} {fits : ChannelRow → Prop} (hw : Calm w)
    (hkeys : w.tables.Findable) (hname : checkStorable name = .ok ())
    (hgiven : ∃ secret, given = .text secret)
    (hfits : ∀ row, fits row ↔ name = .text row.name ∧ given = .text row.secret) :
    Decided w.tables fits (run (byKey name given) w).1 := by
  obtain ⟨s, rfl, -⟩ := Store.checkStorable_ok.mp hname
  obtain ⟨secret, rfl⟩ := hgiven
  rw [(byKey_yields hw hname).result_eq]
  refine verdict_decided hkeys fun row => ?_
  rw [hfits, Column.Holds, RawText.text.injEq, RawText.text.injEq, decide_eq_true_iff, eq_comm]

theorem Attempt.decided {attempt : Attempt} (hw : Calm w) (hkeys : w.tables.Findable)
    (h : attempt.Readable) : Decided w.tables attempt.Fits (run attempt.act w).1 := by
  cases attempt with
  | key name given => exact byKey_decided hw hkeys h.1 h.2 fun _ => .rfl
  | url address =>
    obtain ⟨name, given, hsplit, hname, hgiven⟩ := h
    rw [Attempt.act, byUrl_eq hsplit]
    refine byKey_decided hw hkeys hname hgiven fun row => ?_
    rw [Fits, hsplit, Except.ok.injEq, Prod.mk.injEq]
  | challenge ftlId nonce digest =>
    obtain ⟨id, rfl, -⟩ := Store.checkStorable_ok.mp h
    rw [Attempt.act, (byChallenge_yields hw h).result_eq]
    refine verdict_decided hkeys fun row => ?_
    simp [Fits, Column.Holds, challengeDigest, eq_comm]

-- -----------------------------------------------------------------------------
-- Other ends
-- -----------------------------------------------------------------------------

/-- The errors that tell an attempt from a refused one: an outage, or what nobody foresaw. -/
inductive Error.Stray : Error → Prop
  | outage : Stray (.service (.failure .store))
  | unforeseen (e : Channel.RegistryError) : Stray (.service (.unforeseen e))
  | url (e : Url.SplitError) : Stray (.url e)
  | surrogate (e : SurrogateError) : Stray (.surrogate e)

theorem lookUp_broken (column : Column) {codes : List Nat} (hw : Calm w) (h : 0 ∉ codes) :
    ∃ e, e.Stray ∧ Yields (lookUp column (.broken codes)) w (.error e) w.tables := by
  let raised := w.runtime.refusal.error [.text (.broken codes)] (.surrogate ⟨codes⟩)
  have hfind : Yields (Registry.find column (.broken codes)) w
      (.error (Channel.meaning "find_channel" raised)) w.tables :=
    Registry.find_broken column hw h
  rw [Channel.meaning] at hfind
  cases hfamily : raised.family with
  | uniqueViolation => exact absurd hfamily w.runtime.refusal.foreign
  | outage =>
    rw [hfamily] at hfind
    exact ⟨_, .outage, hfind.map.handle_error fun _ hv => .fail _ hv.tables_eq⟩
  | other =>
    rw [hfamily] at hfind
    exact ⟨_, .unforeseen _, hfind.map.handle_error fun _ hv => .fail _ hv.tables_eq⟩

theorem lookUp_strayed (column : Column) (hw : Calm w) (h : checkStorable value ≠ .ok ()) :
    ∃ e, e.Stray ∧ Yields (lookUp column value) w (.error e) w.tables := by
  by_cases hzero : 0 ∈ value.codes
  · exact ⟨_, .outage, lookUp_zero column hw hzero⟩
  cases value with
  | text s => exact absurd (Store.checkStorable_ok.mpr ⟨s, rfl, hzero⟩) h
  | broken codes => exact lookUp_broken column hw hzero

theorem byKey_strayed {name given : RawText} (hw : Calm w)
    (h : ¬(checkStorable name = .ok () ∧ ∃ secret, given = .text secret)) :
    ∃ e, e.Stray ∧ Yields (byKey name given) w (.error e) w.tables := by
  by_cases hname : checkStorable name = .ok ()
  · cases given with
    | text s => exact absurd ⟨hname, s, rfl⟩ h
    | broken codes =>
      refine ⟨.surrogate ⟨codes⟩, .surrogate _, ?_⟩
      cases hrow : Registry.row? .name name.filled w.tables with
      | none => exact (lookUp_missing hw hname hrow).bind fun _ hv => .fail _ hv.tables_eq
      | some row => exact (lookUp_found hw hname hrow).bind fun _ hv => .fail _ hv.tables_eq
  · obtain ⟨e, he, hlook⟩ := lookUp_strayed .name hw hname
    exact ⟨e, he, hlook.bind_error⟩

/-- An attempt with texts that no channel could have is never let in, and not refused either. -/
theorem Attempt.strayed {attempt : Attempt} (hw : Calm w) (h : ¬attempt.Readable) :
    ∃ e, e.Stray ∧ Yields attempt.act w (.error e) w.tables := by
  cases attempt with
  | key name given => exact byKey_strayed hw h
  | url address =>
    cases hsplit : credentials address with
    | error e =>
      refine ⟨.url e, .url e, ?_⟩
      rw [Attempt.act, byUrl_error hsplit]
      exact .fail _ rfl
    | ok pair =>
      rw [Attempt.act, byUrl_eq hsplit]
      exact byKey_strayed hw fun hreadable => h ⟨pair.1, pair.2, hsplit, hreadable⟩
  | challenge ftlId nonce digest =>
    obtain ⟨e, he, hlook⟩ := lookUp_strayed .ftlId hw h
    exact ⟨e, he, hlook.bind_error⟩

-- -----------------------------------------------------------------------------
-- Success
-- -----------------------------------------------------------------------------

variable {v : World} {auth : Authorization} {secret : String}

theorem lookUp_ok (h : run (lookUp column value) w = (.ok (some auth, secret), v)) :
    ∃ key row, value = .text key ∧ row ∈ w.tables.channels ∧ column.Holds key row
      ∧ auth = authorization w.tables row ∧ secret = row.secret := by
  rcases Act.handle_ok.mp h with hfind | ⟨e, u, -, hmissed⟩
  · obtain ⟨⟨_, _⟩, u, hfind, hpair⟩ := Act.bind_ok.mp hfind
    cases (Act.pure_ok.mp hpair).1
    obtain ⟨t, ⟨⟨key, row, hkey, hrow, hfound⟩, -⟩, -⟩ := Channel.Registry.find_commits.ok hfind
    cases hfound
    obtain ⟨hmem, hholds⟩ := Channel.holds_of_row? hrow
    exact ⟨key, row, hkey, hmem, hholds, rfl, rfl⟩
  · cases e <;> cases hmissed

theorem byKey_ok {name given : RawText} (h : run (byKey name given) w = (.ok auth, v)) :
    ∃ row ∈ w.tables.channels, (name = .text row.name ∧ given = .text row.secret)
      ∧ auth = authorization w.tables row := by
  obtain ⟨⟨found, secret⟩, u, hlook, hrest⟩ := Act.bind_ok.mp h
  obtain ⟨key, u', hread, hend⟩ := Act.bind_ok.mp hrest
  obtain ⟨hkey, rfl⟩ := Act.ofExcept_ok.mp hread
  cases found with
  | none => cases hend
  | some found =>
    obtain ⟨n, row, rfl, hrow, hname, rfl, rfl⟩ := lookUp_ok hlook
    cases given with
    | broken codes => cases hkey
    | text s =>
      cases hkey
      by_cases hmatch : Utf8.ofString key = Utf8.ofString row.secret
      · simp only [if_pos hmatch, Act.pure_ok] at hend
        rw [Utf8.ofString_injective hmatch, ← hend.1]
        exact ⟨row, hrow, ⟨congrArg RawText.text (Eq.symm hname), rfl⟩, rfl⟩
      · simp only [if_neg hmatch] at hend
        cases hend

theorem byChallenge_ok {ftlId : RawText} {nonce digest : Bytes}
    (h : run (byChallenge ftlId nonce digest) w = (.ok auth, v)) :
    ∃ row ∈ w.tables.channels, (Attempt.challenge ftlId nonce digest).Fits row
      ∧ auth = authorization w.tables row := by
  obtain ⟨⟨found, secret⟩, u, hlook, hend⟩ := Act.bind_ok.mp h
  cases found with
  | none => cases hend
  | some found =>
    obtain ⟨id, row, rfl, hrow, hid, rfl, rfl⟩ := lookUp_ok hlook
    by_cases hmatch : challengeDigest row.secret nonce = digest
    · simp only [if_pos hmatch, Act.pure_ok] at hend
      exact ⟨row, hrow, ⟨⟨id, hid, rfl⟩, hmatch.symm⟩, hend.1.symm⟩
    · simp only [if_neg hmatch] at hend
      cases hend

theorem Attempt.let_in (attempt : Attempt) (h : (run attempt.act w).1 = .ok auth) :
    ∃ row ∈ w.tables.channels, attempt.Fits row ∧ auth = authorization w.tables row := by
  have hrun := Act.run_eq h
  cases attempt with
  | key name given => exact byKey_ok hrun
  | url address =>
    obtain ⟨⟨name, given⟩, u, hread, hkey⟩ := Act.bind_ok.mp hrun
    obtain ⟨hsplit, rfl⟩ := Act.ofExcept_ok.mp hread
    obtain ⟨row, hrow, ⟨rfl, rfl⟩, hauth⟩ := byKey_ok hkey
    exact ⟨row, hrow, mapError_ok.mp hsplit, hauth⟩
  | challenge ftlId nonce digest => exact byChallenge_ok hrun

end Ingest
end OnAir
