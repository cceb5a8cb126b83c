import SandboxPolicy.Text.CharSet

/-!
A set of characters as rows of byte ranges. Each row holds one range of bytes for each byte of its
characters, and a character is in the set when its bytes lie in the ranges of a row.
-/

namespace SandboxPolicy.Regex

abbrev ByteRange := Nat × Nat

def codeBytes (code : Nat) : List Nat :=
  if code < 0x80 then [code]
  else if code < 0x800 then [0xc0 + code / 0x40, 0x80 + code % 0x40]
  else if code < 0x10000 then
    [0xe0 + code / 0x1000, 0x80 + code / 0x40 % 0x40, 0x80 + code % 0x40]
  else
    [0xf0 + code / 0x40000, 0x80 + code / 0x1000 % 0x40, 0x80 + code / 0x40 % 0x40,
      0x80 + code % 0x40]

/-- The first place where the code points of a range have to be told apart, because no row of byte
ranges covers both sides: the last code point before it. -/
def cut? (first last : Nat) : Option Nat :=
  let lengths := [0x7f, 0x7ff, 0xffff].find? fun code => first ≤ code && code < last
  let blocks := [0x40, 0x1000, 0x40000].findSome? fun block =>
    if last < 0x80 ∨ first / block = last / block then none
    else if first % block ≠ 0 then some (first / block * block + block - 1)
    else if last % block ≠ block - 1 then some (last / block * block - 1)
    else none
  lengths.or blocks

/-- Rows that together cover a range of code points, in the order of the bytes. As a range is cut a
few times at most, so many `steps` suffice. -/
def rowsWithin : (steps : Nat) → Nat → Nat → List (List ByteRange)
  | 0, first, last => [(codeBytes first).zip (codeBytes last)]
  | steps + 1, first, last =>
      match cut? first last with
      | some code => rowsWithin steps first code ++ rowsWithin steps (code + 1) last
      | none => [(codeBytes first).zip (codeBytes last)]

def rowsOfRange (range : Nat × Nat) : List (List ByteRange) :=
  let below := (range.1, min range.2 0xd7ff)
  let above := (max range.1 0xe000, range.2)
  ([below, above].filter fun part => part.1 ≤ part.2).flatMap fun part =>
    rowsWithin 32 part.1 part.2

def byteRows (set : CharSet) : List (List ByteRange) := set.ranges.toList.flatMap rowsOfRange

end SandboxPolicy.Regex
