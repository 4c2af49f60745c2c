import OnAir.Charset.Reader

/-!
# Pages

A page gives each byte at most one character. It is a grid of 16 columns. Most pages agree with
ASCII in their first half, so only their second half is written out, or what follows its 32 control
characters.
-/

namespace OnAir.Charset

/-- A page: all of it, its second half, or its second half after the control characters. -/
inductive Page
  | full (rows : Grid)
  | upper (rows : Grid)
  | controls (rows : Grid)
  deriving DecidableEq, Repr

def Page.char? (page : Page) (b : UInt8) : Option Char :=
  let own := Char.ofNat b.toNat
  let row := b.toNat / 16
  let column := b.toNat % 16
  match page with
  | .full rows => rows.at? row column
  | .upper rows => if row < 8 then some own else rows.at? (row - 8) column
  | .controls rows => if row < 10 then some own else rows.at? (row - 10) column

def Page.reader (page : Page) : Reader :=
  .plain fun b _ => .ofChar? (page.char? b) 0 ()

end OnAir.Charset
