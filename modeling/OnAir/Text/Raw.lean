import OnAir.Text.Quoted

/-!
# Raw text

Text from outside may name half of a surrogate pair without the other half. Such a half is no
character, so the text is none that could be stored or sent; but it can be compared, cut, shown with
escapes, and refused. Raw text is proper text or the codes of a broken one.
-/

namespace OnAir

/-- Text as it comes in. `broken` holds the codes of a text with at least one half of a surrogate
pair. -/
inductive RawText
  | text (s : String)
  | broken (codes : List Nat)
  deriving DecidableEq, Repr, Inhabited

namespace RawText

instance : Coe String RawText := ⟨.text⟩

def ofCodes (codes : List Nat) : RawText :=
  if codes.all fun n => Nat.isValidChar n then .text (String.ofList (codes.map Char.ofNat))
  else .broken codes

def codes : RawText → List Nat
  | .text s => s.toList.map Char.toNat
  | .broken codes => codes

def text? : RawText → Option String
  | .text s => some s
  | .broken _ => none

def isEmpty (t : RawText) : Bool :=
  t = .text ""

@[simp] theorem isEmpty_text (s : String) : (text s).isEmpty = decide (s = "") := by
  simp [isEmpty]

def filledWith (c : Char) : RawText → String
  | .text s => s
  | .broken codes =>
    String.ofList (codes.map fun n => if Nat.isValidChar n then Char.ofNat n else c)

def filled (t : RawText) : String :=
  t.filledWith '\uFFFD'

def quoted (t : RawText) : List Char :=
  Text.quotedCodes t.codes

def append (a b : RawText) : RawText :=
  ofCodes (a.codes ++ b.codes)

instance : Append RawText := ⟨append⟩

-- -----------------------------------------------------------------------------
-- Stand-ins
-- -----------------------------------------------------------------------------

/-- The first of a block of private characters that a text does not use, one for every half of a
surrogate pair. -/
def freeBlock (text : List Char) : Nat :=
  let isFree := fun (first : Nat) => !text.any fun c => first ≤ c.toNat && c.toNat < first + 2048
  (((List.range 64).map fun k => 0xf0000 + 2048 * k).find? isFree).getD 0xf0000

def standingIn (block : Nat) (t : RawText) : String :=
  String.ofList (t.codes.map fun n =>
    Char.ofNat (if Nat.isValidChar n then n else block + (n - 0xd800)))

def ofStandingIn (block : Nat) (s : String) : RawText :=
  ofCodes (s.toList.map fun c =>
    if block ≤ c.toNat ∧ c.toNat < block + 2048 then c.toNat - block + 0xd800 else c.toNat)

end RawText

structure SurrogateError where
  codes : List Nat
  deriving DecidableEq, Repr

def SurrogateError.message (e : SurrogateError) : String :=
  let start := (e.codes.takeWhile fun n => Nat.isValidChar n).length
  let stretch := (e.codes.drop start).takeWhile fun n => ¬ Nat.isValidChar n
  let place :=
    if stretch.length = 1 then
      "character '" ++ String.ofList (Text.codeEscape (stretch.headD 0)) ++ "' in position "
        ++ toString start
    else "characters in position " ++ toString start ++ "-" ++ toString (start + stretch.length - 1)
  "'utf-8' codec can't encode " ++ place ++ ": surrogates not allowed"

def SurrogateError.name (_ : SurrogateError) : String :=
  "UnicodeEncodeError"

def RawText.proper : RawText → Except SurrogateError String
  | .text s => .ok s
  | .broken codes => .error ⟨codes⟩

@[simp] theorem RawText.proper_text (s : String) : (text s).proper = .ok s := rfl
end OnAir
