import OnAir.Text.Cut
import OnAir.Text.Utf8

/-!
# Encodings of documents

A JSON document may come in UTF-8, UTF-16 or UTF-32: a mark at its front or the position of its
zero bytes tells which.

Half a surrogate pair is no character. A document may hold one all the same; its text then has
U+FFFD in that place, and the half is listed apart.
-/

namespace OnAir

inductive Encoding
  | utf8
  | utf16 (little : Bool)
  | utf32 (little : Bool)
  deriving DecidableEq, Repr

namespace Encoding

open Utf8 (Item)

def unit (little : Bool) (bytes : Bytes) : Nat :=
  Bytes.toNat (if little then bytes.reverse else bytes)

def pairUp : List Nat → List Item
  | [] => []
  | [u] => [Utf8.item u]
  | u :: v :: rest =>
    if 0xd800 ≤ u ∧ u < 0xdc00 ∧ 0xdc00 ≤ v ∧ v < 0xe000 then
      Utf8.item (0x10000 + (u - 0xd800) * 1024 + (v - 0xdc00)) :: pairUp rest
    else Utf8.item u :: pairUp (v :: rest)

def items (encoding : Encoding) (bytes : Bytes) : List Item :=
  match encoding with
  | .utf8 => Utf8.items true bytes
  | .utf16 little =>
    let whole := bytes.take (bytes.length / 2 * 2)
    pairUp ((Bytes.pieces 2 whole).map (unit little))
      ++ if bytes.length % 2 = 0 then [] else [.bad]
  | .utf32 little =>
    let whole := bytes.take (bytes.length / 4 * 4)
    ((Bytes.pieces 4 whole).map fun group =>
      let code := unit little group
      if code < 0x110000 then Utf8.item code else .bad)
      ++ if bytes.length % 4 = 0 then [] else [.bad]

def marks : List (Bytes × Encoding) :=
  [([0, 0, 0xfe, 0xff], .utf32 false), ([0xff, 0xfe, 0, 0], .utf32 true),
    ([0xfe, 0xff], .utf16 false), ([0xff, 0xfe], .utf16 true), ([0xef, 0xbb, 0xbf], .utf8)]

def guess : Bytes → Encoding
  | a :: b :: c :: d :: _ =>
    if a = 0 then (if b = 0 then .utf32 false else .utf16 false)
    else if b = 0 then (if c = 0 ∧ d = 0 then .utf32 true else .utf16 true)
    else .utf8
  | [a, b] => if a = 0 then .utf16 false else if b = 0 then .utf16 true else .utf8
  | _ => .utf8

def detect (bytes : Bytes) : Encoding × Bytes :=
  match marks.findSome? fun (mark, encoding) => (Text.after? mark bytes).map (encoding, ·) with
  | some found => found
  | none => (guess bytes, bytes)

/-- The text of a list of items, U+FFFD in place of what is no character, and the halves of
surrogate pairs among them, each by the number of characters after it. -/
def textAndHalves : List Item → List Char × List (Nat × Nat)
  | [] => ([], [])
  | item :: rest =>
    let (text, halves) := textAndHalves rest
    match item with
    | .char c => (c :: text, halves)
    | .half code => ('\uFFFD' :: text, (text.length, code) :: halves)
    | .bad => ('\uFFFD' :: text, halves)

/-- The text of a document and the halves of surrogate pairs in it, unless some of its bytes stand
for nothing. -/
def document? (bytes : Bytes) : Option (List Char × List (Nat × Nat)) :=
  let (encoding, rest) := detect bytes
  let items := items encoding rest
  if items.contains .bad then none else some (textAndHalves items)

end Encoding
end OnAir
