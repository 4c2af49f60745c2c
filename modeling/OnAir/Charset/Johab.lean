import OnAir.Charset.Korean

/-!
# The combining Korean set

Two bytes spell a Hangul syllable by its letters, with five bits for each of them; a letter alone
has fillers beside it. Signs and Chinese characters are those of the Korean grid, two rows of which
are folded into one first byte.
-/

namespace OnAir.Charset.Johab

/-- A letter in five bits: nothing, a filler, or the letter with a number and its own character. -/
inductive Letter
  | none
  | filler
  | letter (number : Nat) (alone : Char)
  deriving DecidableEq, Repr

/-- The letters of five bits. The filler is at `filler`; the characters stand from `first` on, and
a blank stands for nothing. -/
def letters (filler first : Nat) (characters : String) (code : Nat) : Letter :=
  let all := characters.toList
  if code = filler then .filler
  else if code < first then .none
  else match all[code - first]? with
    | none | some ' ' => .none
    | some c => .letter ((all.take (code - first)).filter (· ≠ ' ')).length c

def initial : Nat → Letter := letters 1 2 "ㄱㄲㄴㄷㄸㄹㅁㅂㅃㅅㅆㅇㅈㅉㅊㅋㅌㅍㅎ"

def vowel : Nat → Letter := letters 2 3 "ㅏㅐㅑㅒㅓ  ㅔㅕㅖㅗㅘㅙ  ㅚㅛㅜㅝㅞㅟ  ㅠㅡㅢㅣ"

def final : Nat → Letter := letters 1 2 "ㄱㄲㄳㄴㄵㄶㄷㄹㄺㄻㄼㄽㄾㄿㅀㅁ ㅂㅄㅅㅆㅇㅈㅊㅋㅌㅍㅎ"

def syllable? (code : Nat) : Option Char :=
  match initial (code / 1024 % 32), vowel (code / 32 % 32), final (code % 32) with
  | .filler, .filler, .filler => some '\u3000'
  | .filler, .filler, .letter _ c => some c
  | .filler, .letter _ c, .filler => some c
  | .letter _ c, .filler, .filler => some c
  | .letter front _, .letter middle _, .filler =>
    some (Char.ofNat (0xac00 + front * 588 + middle * 28))
  | .letter front _, .letter middle _, .letter back _ =>
    some (Char.ofNat (0xac00 + front * 588 + middle * 28 + back + 1))
  | _, _, _ => none

def sign? (a b : Nat) : Option Char :=
  let inLow := 0x31 ≤ b && b ≤ 0x7e
  let inHigh := 0x91 ≤ b && b ≤ 0xfe
  let isLetter := a = 0xda && 0xa1 ≤ b && b ≤ 0xd3
  if a < 0xd9 ∨ a = 0xdf ∨ 0xf9 < a ∨ ¬(inLow ∨ inHigh) ∨ isLetter then none
  else
    let row := if a < 0xe0 then 2 * (a - 0xd9) else 2 * a - 0x197
    let column := if inLow then b - 0x31 else b - 0x43
    Korean.grid.at? (row + column / 94) (column % 94)

def reader : Reader :=
  .pairs fun a b => if a < 0xd8 then syllable? (a * 256 + b) else sign? a b

end OnAir.Charset.Johab
