/-!
Sets of characters as sorted, disjoint, inclusive ranges of code points, with the set operations
of a character class. Large tables are written as base-36 numerals and decoded once.
-/

namespace SandboxPolicy

def lastCode : Nat := 0x10ffff

/-- A set of characters: sorted ranges of code points that neither touch nor overlap. -/
structure CharSet where
  ranges : Array (Nat × Nat)
deriving Repr, BEq, Inhabited

namespace CharSet

def empty : CharSet := ⟨#[]⟩

/-- Halves the interval of candidate ranges until one holds the code point or none is left. -/
def containsBetween (ranges : Array (Nat × Nat)) (code : Nat) : Nat → Nat → Nat → Bool
  | 0, _, _ => false
  | steps + 1, low, high =>
      if low < high then
        let middle := low + (high - low) / 2
        match ranges[middle]? with
        | none => false
        | some (first, last) =>
            if code < first then containsBetween ranges code steps low middle
            else if last < code then containsBetween ranges code steps (middle + 1) high
            else true
      else false

def contains (set : CharSet) (c : Char) : Bool :=
  containsBetween set.ranges c.toNat (set.ranges.size + 1) 0 set.ranges.size

def coalesce : List (Nat × Nat) → List (Nat × Nat)
  | [] => []
  | [range] => [range]
  | (first, last) :: (next, final) :: rest =>
      if next ≤ last + 1 then coalesce ((first, max last final) :: rest)
      else (first, last) :: coalesce ((next, final) :: rest)
termination_by ranges => ranges.length

def ofRanges (ranges : List (Nat × Nat)) : CharSet :=
  ⟨(coalesce (ranges.mergeSort fun left right => left.1 ≤ right.1)).toArray⟩

def ofChar (c : Char) : CharSet := ⟨#[(c.toNat, c.toNat)]⟩

def all : CharSet := ⟨#[(0, lastCode)]⟩

def isEmpty (set : CharSet) : Bool := set.ranges.isEmpty

def union (left right : CharSet) : CharSet :=
  ofRanges (left.ranges.toList ++ right.ranges.toList)

def next (code : Nat) : Nat := if code = 0xd7ff then 0xe000 else code + 1

def previous (code : Nat) : Nat := if code = 0xe000 then 0xd7ff else code - 1

/-- The gap between two ranges, from its ends in either order. Where nothing but the surrogates lies
between the ranges, its ends are theirs. -/
def gap (last first : Nat) : Nat × Nat :=
  (min (next last) (previous first), max (next last) (previous first))

def gapsAfter (last : Nat) : List (Nat × Nat) → List (Nat × Nat)
  | [] => if last < lastCode then [(next last, lastCode)] else []
  | (first, final) :: rest => gap last first :: gapsAfter final rest

def complement (set : CharSet) : CharSet :=
  match set.ranges.toList with
  | [] => all
  | (first, last) :: rest =>
      let before := if 0 < first then [(0, previous first)] else []
      ⟨(before ++ gapsAfter last rest).toArray⟩

def overlaps : List (Nat × Nat) → List (Nat × Nat) → List (Nat × Nat)
  | (a, b) :: left, (c, d) :: right =>
      let common := if max a c ≤ min b d then [(max a c, min b d)] else []
      if b < d then common ++ overlaps left ((c, d) :: right)
      else common ++ overlaps ((a, b) :: left) right
  | _, _ => []
termination_by left right => left.length + right.length

def intersection (left right : CharSet) : CharSet :=
  ⟨(overlaps left.ranges.toList right.ranges.toList).toArray⟩

def remainders : List (Nat × Nat) → List (Nat × Nat) → List (Nat × Nat)
  | [], _ => []
  | left, [] => left
  | (a, b) :: left, (c, d) :: right =>
      if d < a then remainders ((a, b) :: left) right
      else if b < c then (a, b) :: remainders left ((c, d) :: right)
      else
        let before := if a < c then [(a, previous c)] else []
        if d < b then before ++ remainders ((next d, b) :: left) right
        else before ++ remainders left ((c, d) :: right)
termination_by left right => left.length + right.length

def difference (left right : CharSet) : CharSet :=
  ⟨(remainders left.ranges.toList right.ranges.toList).toArray⟩

def symmetricDifference (left right : CharSet) : CharSet :=
  (left.union right).difference (left.intersection right)

def isAscii (set : CharSet) : Bool := set.ranges.all fun range => range.2 < 0x80

def only? (set : CharSet) : Option Char :=
  match set.ranges.toList with
  | [(first, last)] => if first = last then some (Char.ofNat first) else none
  | _ => none

def meets (set : CharSet) (first last : Nat) : Bool :=
  set.ranges.any fun range => range.1 ≤ last && first ≤ range.2

end CharSet

def base36Digit (c : Char) : Nat :=
  if c.isDigit then c.toNat - '0'.toNat else c.toNat - 'a'.toNat + 10

/-- Adds one character to the numerals read so far; a blank or a line's end ends a numeral. -/
def readNumeral (state : Array Nat × Option Nat) (c : Char) : Array Nat × Option Nat :=
  if c = ' ' || c = '\n' then
    match state.2 with
    | none => state
    | some value => (state.1.push value, none)
  else (state.1, some (state.2.getD 0 * 36 + base36Digit c))

/-- The numbers of a table, written as base-36 numerals with blanks or line ends between them. -/
def tableNumbers (text : String) : List Nat :=
  let state := text.toList.foldl readNumeral (#[], none)
  (state.2.elim state.1 state.1.push).toList

def rangesFrom (next : Nat) : List Nat → List (Nat × Nat)
  | gap :: length :: rest =>
      (next + gap, next + gap + length) :: rangesFrom (next + gap + length + 1) rest
  | _ => []

/-- The set of a table that gives, for each range, the gap before it and how far it extends. -/
def CharSet.ofTable (text : String) : CharSet := ⟨(rangesFrom 0 (tableNumbers text)).toArray⟩

/-- Turns alternating labels and lengths into labelled runs that follow each other from `next`. -/
def runsFrom (next : Nat) : List Nat → List (Nat × Nat × Nat)
  | label :: length :: rest => (next, next + length - 1, label) :: runsFrom (next + length) rest
  | _ => []

def labelBetween (runs : Array (Nat × Nat × Nat)) (code : Nat) : Nat → Nat → Nat → Option Nat
  | 0, _, _ => none
  | steps + 1, low, high =>
      if low < high then
        let middle := low + (high - low) / 2
        match runs[middle]? with
        | none => none
        | some (first, last, label) =>
            if code < first then labelBetween runs code steps low middle
            else if last < code then labelBetween runs code steps (middle + 1) high
            else some label
      else none

structure Partition where
  runs : Array (Nat × Nat × Nat)

namespace Partition

def ofTable (text : String) : Partition := ⟨(runsFrom 0 (tableNumbers text)).toArray⟩

def label (partition : Partition) (c : Char) : Option Nat :=
  labelBetween partition.runs c.toNat (partition.runs.size + 1) 0 partition.runs.size

def select (partition : Partition) (accept : Nat → Bool) : CharSet :=
  CharSet.ofRanges (partition.runs.toList.filterMap fun run =>
    if accept run.2.2 then some (run.1, run.2.1) else none)

end Partition

end SandboxPolicy
