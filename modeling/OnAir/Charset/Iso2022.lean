import OnAir.Charset.Chinese
import OnAir.Charset.Korean
import OnAir.Charset.NewJis
import OnAir.Charset.Page.Standard

/-!
# Sets chosen by escapes

Text in seven bits whose escapes say what the bytes after them mean. An escape puts a set into one
of three places. The first place counts, or the second between two shifts; the third place counts
for one character. Other escapes are text up to the capital letter that ends them.
-/

namespace OnAir.Charset.Iso2022

/-- The sets. The Japanese grid has an older edition, and newer ones a second grid. -/
inductive CodedSet
  | ascii
  | roman
  | kana
  | oldKanji
  | kanji
  | newKanji (edition : NewJis.Edition)
  | secondGrid (edition : NewJis.Edition)
  | supplement
  | korean
  | chinese
  | latin
  | greek
  deriving DecidableEq, Repr

def CodedSet.final : CodedSet → Char
  | .ascii | .kanji => 'B'
  | .roman => 'J'
  | .kana => 'I'
  | .oldKanji => '@'
  | .newKanji .first => 'O'
  | .newKanji .second => 'Q'
  | .secondGrid _ => 'P'
  | .supplement => 'D'
  | .korean => 'C'
  | .chinese | .latin => 'A'
  | .greek => 'F'

def CodedSet.more : CodedSet → Nat
  | .ascii | .roman | .kana | .latin | .greek => 0
  | _ => 1

/-- The text of a set in the first two places, by its byte or bytes. The sets for the third place
have none here. -/
def CodedSet.text? (set : CodedSet) (a : Nat) (b : Nat) : Option (List Char) :=
  let one (c : Option Char) : Option (List Char) := c.map ([·])
  match set with
  | .ascii => some [Char.ofNat a]
  | .roman =>
    some [if a = 0x5c then '¥' else if a = 0x7e then '‾' else Char.ofNat a]
  | .kana => one (halfWidth? (a + 0x80))
  | .oldKanji | .kanji => one (Jis.basic.byBytes? a b)
  | .newKanji edition => NewJis.first? edition a b
  | .secondGrid edition => one (NewJis.second? edition a b)
  | .supplement => one (Jis.supplement.byBytes? a b)
  | .korean => one (Korean.grid.byBytes? a b)
  | .chinese => one (Gb.basic.byBytes? a b)
  | .latin | .greek => none

def CodedSet.single? (set : CodedSet) (b : UInt8) : Option Char :=
  match set with
  | .latin => if b < 0x80 then some (Char.ofNat (b.toNat + 0x80)) else none
  | .greek =>
    let b := b ^^^ 0x80
    if b < 0xa0 then some (Char.ofNat b.toNat)
    else if b = 0xa4 ∨ b = 0xa5 ∨ b = 0xaa then none
    else Page.iso7.char? b
  | _ => if b < 0x80 then some (Char.ofNat b.toNat) else none

/-- A variant: the sets it has, whether it shifts to the second place, and whether it has the
third place. -/
structure Variant where
  sets : List CodedSet
  shifts : Bool
  third : Bool
  deriving DecidableEq, Repr

/-- The set that the last byte of an escape calls in a variant, of one byte or of two bytes a
character. -/
def Variant.set? (v : Variant) (double : Bool) (final : UInt8) : Option CodedSet :=
  v.sets.find? fun set => (set.more = 1) = double && set.final.toUInt8 = final

def korean : Variant := ⟨[.ascii, .korean], true, false⟩

def japanese : Variant := ⟨[.ascii, .roman, .kanji, .oldKanji], false, false⟩

def japanese1 : Variant := ⟨[.ascii, .roman, .kanji, .oldKanji, .supplement], false, false⟩

def japanese2 : Variant :=
  ⟨[.ascii, .roman, .kanji, .oldKanji, .supplement, .korean, .chinese, .latin, .greek], false, true⟩

def japaneseKana : Variant :=
  ⟨[.ascii, .roman, .kanji, .oldKanji, .supplement, .kana], false, false⟩

def japaneseNew (edition : NewJis.Edition) : Variant :=
  ⟨[.ascii, .kanji, .newKanji edition, .secondGrid edition], false, false⟩

/-- What a reader remembers: the sets in the three places, whether the second one counts, and
whether it is within an escape that is text. -/
structure State where
  first : CodedSet
  second : CodedSet
  third : CodedSet
  shifted : Bool
  escaping : Bool
  deriving DecidableEq, Repr

def State.start : State := ⟨.ascii, .ascii, .ascii, false, false⟩

def escapeByte : UInt8 := 0x1b

def isEnd (b : UInt8) : Bool :=
  '@'.toUInt8 ≤ b && b ≤ 'Z'.toUInt8

/-- How long an escape is, counted in the bytes after the first. A revision mark with what follows
it does not end an escape, where there are such marks. -/
def extent? (revisions : Bool) : Bytes → Option Nat
  | 0x26 :: 0x40 :: rest =>
    if revisions then match rest with
      | [] => none
      | _ :: rest => (extent? revisions rest).map (· + 3)
    else some 2
  | b :: rest => if isEnd b then some 1 else (extent? revisions rest).map (· + 1)
  | [] => none

def State.put? (s : State) (v : Variant) (place : UInt8) (set : CodedSet) : Option State :=
  if place = '('.toUInt8 then some { s with first := set }
  else if place = ')'.toUInt8 then some { s with second := set }
  else if place = '.'.toUInt8 ∧ v.third then some { s with third := set }
  else none

def State.designate? (s : State) (v : Variant) : Bytes → Option State
  | [place, final] =>
    if place = '$'.toUInt8 then do s.put? v '('.toUInt8 (← v.set? true final)
    else do s.put? v place (← v.set? false final)
  | [lead, place, final] =>
    if lead = '$'.toUInt8 ∧ place ≠ '.'.toUInt8 then do s.put? v place (← v.set? true final)
    else none
  | [_, _, esc, lead, final] =>
    if esc = escapeByte ∧ lead = '$'.toUInt8 ∧ final = 'B'.toUInt8 then do
      s.put? v '('.toUInt8 (← v.set? true final)
    else none
  | _ => none

def State.escape (s : State) (v : Variant) : Bytes → Front State
  | [] => .short
  | b :: rest =>
    if "()$.&".toList.contains (Char.ofNat b.toNat) then
      let window := (b :: rest).take 15
      match extent? (!v.shifts) window with
      | some length => match s.designate? v (window.take length) with
        | some next => .text [] length next
        | none => .bad length s
      | none => if window.length < 15 then .short else .bad 0 s
    else if v.third ∧ b = 'N'.toUInt8 then match rest with
      | [] => .short
      | c :: _ => match s.third.single? c with
        | some c => .text [c] 2 s
        | none => .bad 2 s
    else .text [Char.ofNat escapeByte.toNat] 0 { s with escaping := true }

def State.front (s : State) (v : Variant) (a : UInt8) (rest : Bytes) : Front State :=
  let own (next : State) : Front State := .text [Char.ofNat a.toNat] 0 next
  if s.escaping then own { s with escaping := !isEnd a }
  else if a = escapeByte then s.escape v rest
  else if v.shifts ∧ (a = 0x0e ∨ a = 0x0f) then .text [] 0 { s with shifted := a = 0x0e }
  else if a = '\n'.toUInt8 then own { s with shifted := false }
  else if a < 0x20 then own s
  else if 0x80 ≤ a then .bad 0 s
  else
    let set := if s.shifted then s.second else s.first
    if (rest.take set.more).length < set.more then .short
    else match set.text? a.toNat (rest.headD 0).toNat with
      | some text => .text text set.more s
      | none => .bad set.more s

def reader (v : Variant) : Reader where
  State := State
  start := .start
  front s := s.front v
  finish _ := []

end OnAir.Charset.Iso2022
