import OnAir.Text.Blank
import OnAir.Text.Digit
import OnAir.Text.Quoted
import OnAir.Number.Integer

/-!
# Double-precision numbers

A finite double is a signed multiple of a power of two with a mantissa below 2^53, so every
operation here is exact arithmetic followed by one rounding to the nearest double, ties to the even
mantissa. Clock readings, timeouts and the numbers of JSON documents go through it.
-/

namespace OnAir

/-- A double. `finite negative m q` is ±m · 2^q; the sign of a zero is kept. -/
inductive Double
  | nan
  | infinite (negative : Bool)
  | finite (negative : Bool) (mantissa : Nat) (exponent : Int)
  deriving DecidableEq, Repr

namespace Double

def roundDiv (num den : Nat) : Nat :=
  let q := num / den
  let r := num % den
  if 2 * r < den then q
  else if 2 * r = den then (if q % 2 = 0 then q else q + 1)
  else q + 1

def scaled (num den : Nat) (q : Int) : Nat × Nat :=
  if 0 ≤ q then (num, den * Nat.pow 2 q.toNat) else (num * Nat.pow 2 (-q).toNat, den)

/-- The exponent of the double nearest to `num / den`: the mantissa has 53 bits, or fewer where the
exponent cannot go below -1074. -/
def exponentOf (num den : Nat) : Int :=
  let guess : Int := (num.log2 : Int) - (den.log2 : Int) - 52
  let (n, d) := scaled num den guess
  max (-1074) (if n < Nat.pow 2 52 * d then guess - 1 else guess)

def ofFraction (negative : Bool) (num den : Nat) : Double :=
  if num = 0 then .finite negative 0 (-1074)
  else
    let q := exponentOf num den
    let (n, d) := scaled num den q
    let m := roundDiv n d
    let (m, q) := if m = Nat.pow 2 53 then (Nat.pow 2 52, q + 1) else (m, q)
    if 971 < q then .infinite negative else .finite negative m q

def ofRat (x : Rat) : Double :=
  ofFraction (x.num < 0) x.num.natAbs x.den

def ofInt (n : Int) : Double :=
  ofRat n

def toRat : Double → Rat
  | .finite negative m q =>
    let magnitude : Rat :=
      if 0 ≤ q then (m * Nat.pow 2 q.toNat : Nat) else mkRat m (Nat.pow 2 (-q).toNat)
    if negative then -magnitude else magnitude
  | _ => 0

def truncate (x : Double) : Int :=
  x.toRat.num.tdiv x.toRat.den

def floor (x : Double) : Int :=
  x.toRat.num.fdiv x.toRat.den

def isTruthy : Double → Bool
  | .finite _ m _ => m ≠ 0
  | _ => true

-- -----------------------------------------------------------------------------
-- Decimal text
-- -----------------------------------------------------------------------------

/-- The double nearest to ±digits · 10^exponent. Exponents far out of range need no arithmetic. -/
def ofDecimal (negative : Bool) (digits : Nat) (exponent : Int) : Double :=
  let size : Int := (Nat.toDigits 10 digits).length
  if digits = 0 ∨ size + exponent < -400 then .finite negative 0 (-1074)
  else if 400 < size + exponent then .infinite negative
  else if 0 ≤ exponent then ofFraction negative (digits * Nat.pow 10 exponent.toNat) 1
  else ofFraction negative digits (Nat.pow 10 (-exponent).toNat)

/-- Digits and decimal exponent of the shortest decimal that reads back as m · 2^q, for m > 0.
Grids of decimals are tried from one digit to seventeen; on each, the two neighbours of the
value. -/
def shortest (m : Nat) (q : Int) : Nat × Int :=
  let (n, d) := scaled m 1 (-q)
  -- the interval of reals that round to the value, in units of a quarter of the last place
  let below := if m = Nat.pow 2 52 ∧ -1074 < q then 1 else 2
  let inside (num den : Nat) : Bool :=
    let (a, b) := scaled 1 1 (2 - q)
    -- num/den against (4m - below) and (4m + 2) quarters
    let x := num * b
    let low := (4 * m - below) * a * den
    let high := (4 * m + 2) * a * den
    if m % 2 = 0 then low ≤ x && x ≤ high else low < x && x < high
  let lead : Int := ((Nat.log2 m : Int) + q) * 30103 / 100000
  let power (e : Int) : Nat × Nat :=
    if 0 ≤ e then (Nat.pow 10 e.toNat, 1) else (1, Nat.pow 10 (-e).toNat)
  let reaches (e : Int) : Bool := let (a, b) := power e; a * d ≤ n * b
  let lead := if reaches (lead + 1) then lead + 1 else if reaches lead then lead else lead - 1
  let candidate (count : Nat) : Option (Nat × Int) :=
    let e := lead - (count : Int) + 1
    let (a, b) := power e
    let down := (n * b) / (d * a)
    let rest := (n * b) % (d * a)
    let nearer := if 2 * rest < d * a ∨ (2 * rest = d * a ∧ down % 2 = 0) then down else down + 1
    let farther := if nearer = down then down + 1 else down
    if inside (nearer * a) b then some (nearer, e)
    else if inside (farther * a) b then some (farther, e)
    else none
  (((List.range 17).filterMap fun k => candidate (k + 1)).head?).getD (n / d, 0)

structure Layout where
  /-- Positional notation while the decimal point is this far to the left at most … -/
  left : Int
  /-- … and this far to the right. -/
  right : Int
  /-- The least number of digits of an exponent, which always has a sign. -/
  exponentWidth : Nat
  nan : String
  infinity : String
  negativeInfinity : String

def plain : Layout := ⟨-4, 16, 2, "nan", "inf", "-inf"⟩

def exponentText (width : Nat) (e : Int) : List Char :=
  let digits := Nat.toDigits 10 e.natAbs
  'e' :: (if e < 0 then '-' else '+') :: List.replicate (width - digits.length) '0' ++ digits

def text (layout : Layout) : Double → List Char
  | .nan => layout.nan.toList
  | .infinite false => layout.infinity.toList
  | .infinite true => layout.negativeInfinity.toList
  | .finite negative m q =>
    let sign := if negative then ['-'] else []
    if m = 0 then sign ++ ['0', '.', '0']
    else
      let (n, e) := shortest m q
      let digits := Text.dropTail (· = '0') (Nat.toDigits 10 n)
      let e : Int := e + ((Nat.toDigits 10 n).length - digits.length : Nat)
      -- the decimal point stands after the first `point` digits
      let point : Int := e + digits.length
      let body :=
        if point < layout.left + 1 ∨ layout.right < point then
          let fraction := digits.drop 1
          digits.take 1 ++ (if fraction = [] then [] else '.' :: fraction)
            ++ exponentText layout.exponentWidth (point - 1)
        else if point ≤ 0 then '0' :: '.' :: List.replicate (-point).toNat '0' ++ digits
        else if digits.length ≤ point then
          digits ++ List.replicate (point - digits.length).toNat '0' ++ ['.', '0']
        else digits.take point.toNat ++ '.' :: digits.drop point.toNat
      sign ++ body

def exponent? (text : List Char) : Option Int :=
  match text with
  | [] => some 0
  | e :: rest =>
    if e = 'e' ∨ e = 'E' then
      let (negative, rest) := match rest with
        | '-' :: rest => (true, rest)
        | '+' :: rest => (false, rest)
        | _ => (false, rest)
      match Integer.digits? rest with
      | some ([], _) | none => none
      | some (ds, []) =>
        let n : Int := Integer.ofDigits ds
        some (if negative then -n else n)
      | some _ => none
    else none

/-- Reads an unsigned number: digits with an optional point among them and an optional exponent. -/
def unsigned? (negative : Bool) (text : List Char) : Option Double := do
  let (whole, rest) ← Integer.digits? text
  let (fraction, rest) ← match rest with
    | '.' :: rest => Integer.digits? rest
    | _ => some ([], rest)
  if whole = [] ∧ fraction = [] then none
  else
    let e ← exponent? rest
    return ofDecimal negative (Integer.ofDigits (whole ++ fraction)) (e - fraction.length)

/-- Reads a double from the text of a setting: blanks around it, a sign, digits of any script with
single underscores between them, or a name of infinity or of no number. -/
def read? (text : List Char) : Option Double :=
  let body := Integer.trim text
  let (negative, body) := match body with
    | '-' :: rest => (true, rest)
    | '+' :: rest => (false, rest)
    | _ => (false, body)
  match String.ofList (Text.lower body) with
  | "inf" | "infinity" => some (.infinite negative)
  | "nan" => some .nan
  | _ => unsigned? negative body

end Double
end OnAir
