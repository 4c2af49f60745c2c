import OnAir.Text.Cut

/-!
# Punycode

Punycode writes a text in letters and digits: first its ASCII characters, then, after a hyphen, how
to insert the others one after another. Each insertion is a number in digits whose weights adapt to
the numbers before. Texts are lists of codes here, as a number may lead to a code that is no
character.
-/

namespace OnAir.Punycode

inductive Fault
  | incomplete
  | digit
  | code
  deriving DecidableEq, Repr

def digits : List Char := "abcdefghijklmnopqrstuvwxyz0123456789".toList

def threshold (bias position : Nat) : Nat :=
  max 1 (min 26 (36 * (position + 1) - bias))

/-- Divides a number by 35 until it is at most 455; the bias is 36 for each division and a part for
the rest. -/
def settle (delta divisions : Nat) : Nat :=
  if 455 < delta then settle (delta / 35) (divisions + 36)
  else divisions + 36 * delta / (delta + 38)
termination_by delta
decreasing_by omega

/-- The bias after a number, the first or a later one, when `length` characters are in place. -/
def adapt (delta : Nat) (first : Bool) (length : Nat) : Nat :=
  let delta := if first then delta / 700 else delta / 2
  settle (delta + delta / length) 0

-- -----------------------------------------------------------------------------
-- Reading
-- -----------------------------------------------------------------------------

def number (bias : Nat) (position weight value : Nat) : List Char → Except Fault (Nat × List Char)
  | [] => .error .incomplete
  | c :: rest =>
    let digit := digits.idxOf c
    if digit = 36 then .error .digit
    else
      let limit := threshold bias position
      let value := value + digit * weight
      if digit < limit then .ok (value, rest)
      else number bias (position + 1) (weight * (36 - limit)) value rest

theorem number_length {bias position weight value n : Nat} {text rest : List Char}
    (h : number bias position weight value text = .ok (n, rest)) : rest.length < text.length := by
  induction text generalizing position weight value with
  | nil => simp [number] at h
  | cons c text ih =>
    simp only [number] at h
    split at h
    · cases h
    · split at h
      · cases h; simp
      · exact Nat.lt_succ_of_lt (ih h)

structure Cursor where
  code : Nat
  position : Nat
  bias : Nat
  first : Bool
  deriving DecidableEq, Repr

def Cursor.start : Cursor := ⟨128, 0, 72, true⟩

/-- Inserts characters into a text as the digits tell. A code beyond all characters is a fault, or
the `stand` takes its place. What was inserted before a fault is kept. -/
def insertions (stand : Option Nat) (cursor : Cursor) (text : List Nat) (digits : List Char) :
    List Nat × Option Fault :=
  if digits = [] then (text, none)
  else match h : number cursor.bias 0 1 0 digits with
    | .error f => (text, some f)
    | .ok (delta, rest) =>
      let sum := cursor.position + delta
      let code := cursor.code + sum / (text.length + 1)
      let position := sum % (text.length + 1)
      let bias := adapt delta cursor.first (text.length + 1)
      let insertion (code : Nat) := insertions stand ⟨code, position + 1, bias, false⟩
        (text.take position ++ code :: text.drop position) rest
      if code < 0x110000 then insertion code
      else match stand with
        | none => (text, some .code)
        | some stand => insertion stand
termination_by digits.length
decreasing_by all_goals exact number_length h

def decode (text : List Char) : Except Fault (List Nat) :=
  let (base, digits) := (Text.cutLast? '-' text).getD ([], text)
  match insertions none .start (base.map Char.toNat) digits with
  | (codes, none) => .ok codes
  | (_, some f) => .error f

-- -----------------------------------------------------------------------------
-- Writing
-- -----------------------------------------------------------------------------

def numeral (bias position n : Nat) : List Char :=
  let limit := threshold bias position
  if n < limit then [digits.getD n 'a']
  else
    let base := 36 - limit
    digits.getD (limit + (n - limit) % base) 'a'
      :: numeral bias (position + 1) ((n - limit) / base)
termination_by n
decreasing_by
  have : 1 ≤ threshold bias position := Nat.le_max_left ..
  have := Nat.div_le_self (n - threshold bias position) (36 - threshold bias position)
  omega

/-- The number that leads to the next character: the characters passed over in full rounds, and
those before it in its own round. -/
structure Progress where
  code : Nat
  delta : Nat
  bias : Nat
  length : Nat
  first : Bool
  out : List Char

def round (code : Nat) (text : List Nat) (p : Progress) : Progress :=
  text.foldl
    (fun p c =>
      if c < code then { p with delta := p.delta + 1 }
      else if c = code then
        { p with
          delta := 0
          bias := adapt p.delta p.first (p.length + 1)
          length := p.length + 1
          first := false
          out := p.out ++ numeral p.bias 0 p.delta }
      else p)
    p

def encode (text : List Nat) : List Char :=
  let base := text.filter (· < 128)
  let others := ((text.filter (128 ≤ ·)).eraseDups).mergeSort
  let done := others.foldl
    (fun p code =>
      let p := { p with delta := p.delta + (code - p.code) * (p.length + 1) }
      let p := round code text p
      { p with code := code + 1, delta := p.delta + 1 })
    (Progress.mk 128 0 72 base.length true [])
  base.map Char.ofNat ++ (if base = [] then [] else ['-']) ++ done.out

end OnAir.Punycode
