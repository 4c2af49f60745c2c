import OnAir.Proofs.Service.Beside
import OnAir.Proofs.Store.Owners

/-!
# Owners are isolated

Whatever an owner asks for, with names of their own or of others, and whatever faults strike: rows of
others and all pictures stay as they are, and so does what others are told about their channels. And
the owner is told nothing about others but whether a name is taken.
-/

namespace OnAir.Service

open Act (Alike run)
open Channel (Column ServiceError)
open Store (Agree Beside Tables Twins Untouched)

variable {publishDir : String} {who : RawText} {w v : World}

def OwnerCall.runAll (publishDir : String) (who : RawText) :
    List OwnerCall → World → List (Except ServiceError Answer) × World
  | [], w => ([], w)
  | call :: calls, w =>
    let (result, w) := run (call.act publishDir who) w
    let (results, w) := runAll publishDir who calls w
    (result :: results, w)

-- -----------------------------------------------------------------------------
-- Rows of others
-- -----------------------------------------------------------------------------

theorem OwnerCall.effect_untouched {call : OwnerCall} {t : Tables}
    (h : (Call.owner who call).Effect w t) : Untouched who w.tables t := by
  cases h with
  | read => exact .refl who w.tables
  | create h => exact Untouched.addUser.trans (.addChannel h)
  | setAnnounce => exact .setChannel
  | delete => exact .deleteChannel
  | setOwnerAnnounce => exact .setUser

theorem OwnerCall.act_untouched (publishDir : String) (who : RawText) (call : OwnerCall)
    (hkeys : w.tables.Unique) :
    Untouched who w.tables (run (call.act publishDir who) w).2.tables
      ∧ (run (call.act publishDir who) w).2.tables.Unique := by
  rcases (call.act_reaches publishDir hkeys).world with hsame | heffect
  · rw [hsame]
    exact ⟨.refl who w.tables, hkeys⟩
  · exact ⟨effect_untouched heffect, heffect.unique hkeys⟩

theorem OwnerCall.runAll_untouched (publishDir : String) (who : RawText)
    (calls : List OwnerCall) (hkeys : w.tables.Unique) :
    Untouched who w.tables (runAll publishDir who calls w).2.tables
      ∧ (runAll publishDir who calls w).2.tables.Unique := by
  induction calls generalizing w with
  | nil => exact ⟨.refl who w.tables, hkeys⟩
  | cons call calls ih =>
    obtain ⟨hstep, hkeys'⟩ := act_untouched publishDir who call hkeys
    obtain ⟨hrest, hlast⟩ := ih hkeys'
    exact ⟨hstep.trans hrest, hlast⟩

-- -----------------------------------------------------------------------------
-- What others are told
-- -----------------------------------------------------------------------------

section
variable {t t' : Tables} {other : RawText}

theorem list_eq (h : Untouched who t t') (hother : other ≠ who) (v : World) :
    (run (Channel.Service.list publishDir other) { v with tables := t }).1
      = (run (Channel.Service.list publishDir other) { v with tables := t' }).1 := by
  let T (a b : Tables) : Prop := a = t ∧ b = t'
  have halike : Alike (Beside T) (Channel.Service.list publishDir other) := by
    refine Channel.Service.list_alike (Beside.side T) fun b hb => ?_
    rintro _ _ ⟨rfl, rfl⟩
    exact (h.channelsOf (hb ▸ hother)).symm
  exact (halike (Beside.of_tables v ⟨rfl, rfl⟩)).1

theorem find_eq (h : Untouched who t t') (ht : t.Unique) (ht' : t'.Unique) {column : Column}
    {value : RawText} {row : Store.ChannelRow}
    (hfound : Channel.Registry.row? column value.filled t = some row)
    (hrow : .text row.owner ≠ who) (v : World) :
    (run (Channel.Registry.find column value) { v with tables := t }).1
      = (run (Channel.Registry.find column value) { v with tables := t' }).1 := by
  have hfound' : Channel.Registry.row? column value.filled t' = some row := by
    cases column with
    | name => exact h.channelNamed? ht ht' hrow hfound
    | ftlId => exact h.channelWithFtlId? ht ht' hrow hfound
  let T (a b : Tables) : Prop := a = t ∧ b = t'
  have halike : Alike (Beside T) (Channel.Registry.find column value) := by
    refine Channel.Registry.find_alike (Beside.side T) ?_
    rintro _ _ ⟨rfl, rfl⟩
    simp only [hfound, hfound', Option.map_some, h.announced hrow]
  exact (halike (Beside.of_tables v ⟨rfl, rfl⟩)).1

end

-- -----------------------------------------------------------------------------
-- What the owner is told
-- -----------------------------------------------------------------------------

theorem OwnerCall.runAll_twins (calls : List OwnerCall) (h : Beside (Twins who) w v) :
    (runAll publishDir who calls w).1 = (runAll publishDir who calls v).1
      ∧ Twins who (runAll publishDir who calls w).2.tables
        (runAll publishDir who calls v).2.tables := by
  induction calls generalizing w v with
  | nil => exact ⟨rfl, h.tables⟩
  | cons call calls ih =>
    have halike : Alike (Beside (Twins who)) (call.act publishDir who) := by
      refine call.act_alike (Beside.side _) ?_ ?_
      · rintro a rfl
        exact (Twins.blind a).steady
      · rintro - a rfl
        exact (Twins.blind a).channelsOf
    obtain ⟨result, w', v', hw, hv, h'⟩ := halike.run_eq h
    obtain ⟨hresults, htwins⟩ := ih h'
    simp only [runAll, hw, hv, hresults]
    exact ⟨trivial, htwins⟩

/-- Whatever an owner asks for: rows of others and all pictures are kept, other owners are listed the
same channels, and their channels are found with the same answers. Over a store with the same rows
of this owner and the same names taken, the owner gets the same answers, and it still has the same
rows of this owner and the same names taken. -/
theorem owner_isolated (publishDir : String) (who : RawText) (calls : List OwnerCall) {w : World}
    (hkeys : w.tables.Unique) :
    let after := (OwnerCall.runAll publishDir who calls w).2.tables
    Untouched who w.tables after
      ∧ (∀ other ≠ who, ∀ v : World,
        (run (Channel.Service.list publishDir other) { v with tables := w.tables }).1
          = (run (Channel.Service.list publishDir other) { v with tables := after }).1)
      ∧ (∀ (column : Column) (value : RawText) (row : Store.ChannelRow),
        Channel.Registry.row? column value.filled w.tables = some row → .text row.owner ≠ who →
        ∀ v : World, (run (Channel.Registry.find column value) { v with tables := w.tables }).1
          = (run (Channel.Registry.find column value) { v with tables := after }).1)
      ∧ ∀ v : World, v.tables.Unique → Beside (Agree who) w v →
        (OwnerCall.runAll publishDir who calls w).1 = (OwnerCall.runAll publishDir who calls v).1
          ∧ Agree who after (OwnerCall.runAll publishDir who calls v).2.tables := by
  obtain ⟨huntouched, hkeys'⟩ := OwnerCall.runAll_untouched publishDir who calls hkeys
  refine ⟨huntouched, fun other hother v => list_eq huntouched hother v, ?_, ?_⟩
  · exact fun column value row hfound hrow v => find_eq huntouched hkeys hkeys' hfound hrow v
  · intro v hv h
    obtain ⟨hresults, htwins⟩ := OwnerCall.runAll_twins calls { h with
      tables := ⟨hkeys, hv, h.tables⟩ }
    exact ⟨hresults, htwins.agree⟩

/-- An owner tries what can be tried with a channel of somebody else. -/
theorem owner_isolated_contested : ∃ (w v : World) (calls : List OwnerCall),
    w.tables.Unique ∧ v.tables.Unique ∧ Beside (Agree "ann") w v ∧ w.tables ≠ v.tables
      ∧ (OwnerCall.runAll "" "ann" calls w).1 = [.error (.failure .nameTaken),
        .error (.failure (.channelNotFound "two")), .ok .done, .ok .done]
      ∧ Untouched "ann" w.tables (OwnerCall.runAll "" "ann" calls w).2.tables
      ∧ (OwnerCall.runAll "" "ann" calls w).1 = (OwnerCall.runAll "" "ann" calls v).1 := by
  let calls : List OwnerCall :=
    [.create "two", .setAnnounce "two" false, .delete "two", .setOwnerAnnounce false]
  let t : Tables := ⟨[⟨"ann", true⟩, ⟨"bob", true⟩],
    [⟨"ann", "one", "s", none, true⟩, ⟨"bob", "two", "s", some "7", true⟩], [⟨"two", [1], 5⟩]⟩
  let u : Tables := ⟨[⟨"ann", true⟩],
    [⟨"eve", "two", "x", none, false⟩, ⟨"ann", "one", "s", none, true⟩], []⟩
  let w : World := { Store.holding t with faults := [⟨.release, 2, ⟨.outage, "", ""⟩⟩] }
  have ht : t.Unique := ⟨by decide, by decide, by decide, by decide⟩
  have hu : u.Unique := ⟨by decide, by decide, by decide, by decide⟩
  have hagree : Agree "ann" t u := by
    refine ⟨fun row hrow => ?_, fun row hrow => ?_, fun name => ?_⟩
    · obtain ⟨owner, name, secret, ftlId, announce⟩ := row
      cases hrow
      simp [t, u]
    · obtain ⟨owner, announce⟩ := row
      cases hrow
      simp [t, u]
    · simp [t, u, or_comm]
  have hbeside : Beside (Agree "ann") w { w with tables := u } := .of_tables w hagree
  obtain ⟨huntouched, -, -, htwo⟩ := owner_isolated "" "ann" calls (w := w) ht
  exact ⟨w, { w with tables := u }, calls, ht, hu, hbeside, by decide, by decide +kernel,
    huntouched, (htwo _ hu hbeside).1⟩

end OnAir.Service
