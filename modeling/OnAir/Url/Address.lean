import OnAir.Bytes.Hex
import OnAir.Text.Blank

/-!
# Numeric host addresses

Which texts are addresses of the two families of hosts. Only the verdict matters: nothing here
computes with an address.
-/

namespace OnAir.Url

/-- One of the four parts of a dotted address: up to three digits, no leading zero, at most 255. -/
def isDottedPart (part : List Char) : Bool :=
  part ≠ [] && part.all (fun c => '0' ≤ c && c ≤ '9') && part.length ≤ 3
    && (part.length = 1 || part.head? ≠ some '0')
    && part.foldl (fun n c => n * 10 + (c.toNat - 48)) 0 ≤ 255

def isDotted (text : List Char) : Bool :=
  let parts := Text.pieces '.' text
  parts.length = 4 && parts.all isDottedPart

def isGroup (part : List Char) : Bool :=
  part ≠ [] && part.length ≤ 4 && part.all fun c => (Hex.digit? c).isSome

/-- Whether the groups before and after a gap, given as they stand between colons, make an address:
a gap at an end leaves one empty text there, and at least one group must be left out. -/
def gapFits (before after : List (List Char)) : Bool :=
  let front := if before.head? = some [] then before.drop 1 else before
  let back := if after.getLast? = some [] then after.dropLast else after
  (before.head? ≠ some [] || front = []) && (after.getLast? ≠ some [] || back = [])
    && front.all isGroup && back.all isGroup && front.length + back.length < 8

/-- Whether texts between colons make an address: eight groups, or fewer around a single gap. -/
def groupsFit (parts : List (List Char)) : Bool :=
  let inner := (parts.drop 1).dropLast
  match inner.findIdx? (· = []) with
  | none => parts.length = 8 && parts.all isGroup
  | some k =>
    3 ≤ parts.length && parts.length ≤ 9 && inner.count [] = 1
      && gapFits (parts.take (k + 1)) (parts.drop (k + 2))

/-- Whether a text is a colon address. Its last part may be a dotted address, which counts for two
groups, and a zone may follow after a percent sign. -/
def isColon (text : List Char) : Bool :=
  let (body, zoneFits) := match Text.cutFirst? '%' text with
    | some (body, zone) => (body, zone ≠ [] && !zone.contains '%')
    | none => (text, true)
  let parts := Text.pieces ':' body
  let last := parts.getLastD []
  zoneFits && !text.contains '/' && 3 ≤ parts.length
    && if last.contains '.' then
      isDotted last && groupsFit (parts.dropLast ++ [['0'], ['0']])
    else groupsFit parts

end OnAir.Url
