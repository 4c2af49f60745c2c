import OnAir.Text.Cut

/-!
# Blanks

The characters that count as white space around settings, header values and numbers: every
separator and every control that moves the writing position. Trimming and splitting go by this
class alone.
-/

namespace OnAir.Text

def isBlank (c : Char) : Bool :=
  let n := c.toNat
  (9 ≤ n && n ≤ 13) || (28 ≤ n && n ≤ 32) || n == 0x85 || n == 0xa0 || n == 0x1680
    || (0x2000 ≤ n && n ≤ 0x200a) || n == 0x2028 || n == 0x2029 || n == 0x202f || n == 0x205f
    || n == 0x3000

def trim (text : List Char) : List Char :=
  dropTail isBlank (text.dropWhile isBlank)

def words : List Char → List (List Char)
  | [] => []
  | c :: rest =>
    if isBlank c then words rest
    else match rest with
      | [] => [[c]]
      | d :: _ =>
        if isBlank d then [c] :: words rest
        else match words rest with
          | word :: more => (c :: word) :: more
          | [] => [[c]]

def lower (text : List Char) : List Char :=
  text.map Char.toLower

end OnAir.Text

namespace OnAir

def trimmed (s : String) : String :=
  String.ofList (Text.trim s.toList)

def withoutSlashes (s : String) : String :=
  String.ofList (Text.dropTail (· == '/') s.toList)

end OnAir
