import SandboxPolicy.Regex.CharAutomaton
import SandboxPolicy.Regex.LiteralTrie
import SandboxPolicy.Regex.TextSearch

/-!
The size of the automata that find a pattern in a text: one reads the bytes of the text from its
start and notes where groups begin and end, the other reads them from its end. Counted repetitions
are written out, so a size is followed only up to a limit.
-/

namespace SandboxPolicy.Regex

inductive Direction where
  | forward
  | backward
deriving Repr, DecidableEq

/-- An automaton that has been built up to some place. Where it ends in a state that chooses, to go
on takes one more branch. -/
structure Piece where
  footprint : Footprint
  choosing : Bool

namespace Piece

def sizeLimit : Nat := 10485760

def within (footprint : Footprint) (choosing : Bool) : Option Piece :=
  if footprint.bytes ≤ sizeLimit then some ⟨footprint, choosing⟩ else none

/-- Adds states, ranges and branches to the end, and links the end to what was added. -/
def grow (piece : Piece) (states ranges branches : Nat) (choosing : Bool) : Option Piece :=
  let link := if piece.choosing then 1 else 0
  within (piece.footprint.add ⟨states, ranges, branches + link⟩) choosing

def follow (piece : Piece) (build : Footprint → Option Piece) : Option Piece := do
  let linked ← piece.grow 0 0 0 false
  build linked.footprint

def copies (build : Footprint → Option Piece) : Nat → Piece → Option Piece
  | 0, piece => some piece
  | count + 1, piece => do copies build count (← piece.follow build)

end Piece

open Piece

def exactly (build : Footprint → Option Piece) (count : Nat) (footprint : Footprint) :
    Option Piece :=
  match count with
  | 0 => within (footprint.add ⟨1, 0, 0⟩) false
  | more + 1 => do copies build more (← build footprint)

/-- Copies of a part each of which may be passed over together with those after it. -/
def optionalCopies (build : Footprint → Option Piece) : Nat → Piece → Option Piece
  | 0, piece => some piece
  | count + 1, piece => do
      let before ← piece.grow 1 0 2 false
      optionalCopies build count (← build before.footprint)

def bounded (build : Footprint → Option Piece) (least most : Nat) (footprint : Footprint) :
    Option Piece := do
  let start ← exactly build least footprint
  if most ≤ least then some start
  else
    let before : Piece := ⟨start.footprint.add ⟨1, 0, 0⟩, start.choosing⟩
    let piece ← optionalCopies build (most - least) before
    piece.grow 0 0 0 false

/-- A part at least so many times; `takes` tells that a match of it is never empty. -/
def unbounded (build : Footprint → Option Piece) (takes : Bool) (least : Nat)
    (footprint : Footprint) : Option Piece :=
  match least with
  | 0 =>
      if takes then do
        let piece ← build (footprint.add ⟨1, 0, 1⟩)
        piece.grow 0 0 0 true
      else do
        let piece ← build footprint
        piece.grow 3 0 4 false
  | more + 1 => do
      let start ← if more = 0 then build footprint
        else (← exactly build more footprint).follow build
      start.grow 1 0 1 true

def optional (build : Footprint → Option Piece) (footprint : Footprint) : Option Piece := do
  let piece ← build (footprint.add ⟨1, 0, 2⟩)
  piece.grow 1 0 0 false

def repetitions (build : Footprint → Option Piece) (takes : Bool) (least : Nat) :
    Option Nat → Footprint → Option Piece
  | none, footprint => unbounded build takes least footprint
  | some most, footprint =>
      if least = 0 ∧ most = 1 then optional build footprint
      else bounded build least most footprint

/-- The room of the edges of one group: a single range is a state, several share one. -/
def edgesFootprint (count : Nat) : Footprint := ⟨1, if count = 1 then 0 else count, 0⟩

mutual

/-- The room of a tree of texts. A text that ends where nothing follows takes none. -/
def LiteralTrie.footprint : LiteralTrie → Footprint
  | .node closed edges =>
      if closed.all List.isEmpty && edges.isEmpty then ⟨0, 0, 0⟩
      else
        let inner := (LiteralTrie.groupsFootprint closed).add (LiteralTrie.edgesFootprint edges)
        let groups := (edges :: closed).filter fun group => !group.isEmpty
        groups.foldl (fun size group => size.add (Regex.edgesFootprint group.length))
          (inner.add ⟨1, 0, groups.length + closed.length⟩)

def LiteralTrie.edgesFootprint : List (UInt8 × LiteralTrie) → Footprint
  | [] => ⟨0, 0, 0⟩
  | (_, child) :: rest => child.footprint.add (LiteralTrie.edgesFootprint rest)

def LiteralTrie.groupsFootprint : List (List (UInt8 × LiteralTrie)) → Footprint
  | [] => ⟨0, 0, 0⟩
  | edges :: rest => (LiteralTrie.edgesFootprint edges).add (LiteralTrie.groupsFootprint rest)

end

namespace Pattern

def textsFootprint (direction : Direction) (texts : List (List Char)) : Footprint :=
  let bytes := texts.map bytesOf
  let rows := if direction = .forward then bytes else bytes.map List.reverse
  let trie := rows.foldl (fun trie row => trie.insert row) LiteralTrie.empty
  trie.footprint.add ⟨1, 0, 0⟩

def setFootprint (direction : Direction) (set : CharSet) (footprint : Footprint) : Footprint :=
  if set.isAscii then footprint.add ⟨2, set.ranges.size, 0⟩
  else if direction = .forward then CharAutomaton.forward set footprint
  else CharAutomaton.backward set footprint

mutual

def build (direction : Direction) : Pattern → Footprint → Option Piece
  | .empty, footprint | .look _, footprint => within (footprint.add ⟨1, 0, 0⟩) false
  | .literal text, footprint =>
      within (footprint.add ⟨(text.map Char.utf8Size).sum, 0, 0⟩) false
  | .chars set _, footprint => within (setFootprint direction set footprint) false
  | .sequence items, footprint =>
      match direction with
      | .forward => buildAll direction items ⟨footprint, false⟩
      | .backward => buildAllBack direction items ⟨footprint, false⟩
  | .either branches, footprint =>
      match branches.mapM text? with
      | some texts => within (footprint.add (textsFootprint direction texts)) false
      | none => buildAny direction 0 branches footprint
  | .repeated item least most _, footprint =>
      let takes := item.leastLength.any (0 < ·)
      repetitions (item.build direction) takes least most footprint
  | .captured body, footprint =>
      match direction with
      | .forward => do
          let piece ← body.build direction (footprint.add ⟨1, 0, 0⟩)
          piece.grow 1 0 0 false
      | .backward => body.build direction footprint

def buildAll (direction : Direction) : List Pattern → Piece → Option Piece
  | [], piece => some piece
  | item :: rest, piece => do buildAll direction rest (← piece.follow (item.build direction))

def buildAllBack (direction : Direction) : List Pattern → Piece → Option Piece
  | [], piece => some piece
  | item :: rest, piece => do
      (← buildAllBack direction rest piece).follow (item.build direction)

/-- The branches of a choice. The states where they part and meet come after the second. -/
def buildAny (direction : Direction) : Nat → List Pattern → Footprint → Option Piece
  | _, [], footprint => within footprint false
  | index, branch :: rest, footprint => do
      let piece ← branch.build direction footprint
      let joined ← piece.grow (if index = 1 then 2 else 0) 0 1 false
      buildAny direction (index + 1) rest joined.footprint

end

/-- The room of what reads past the start of a text before a match, unless matches are bound to that
place. -/
def leadIn (bound : Bool) : Footprint := if bound then ⟨1, 0, 0⟩ else ⟨3, 1, 2⟩

def fitsForward (pattern : Pattern) : Bool :=
  let start := (leadIn (pattern.beginsWith .textStart)).add ⟨1, 0, 0⟩
  ((pattern.build .forward start).bind fun piece => piece.grow 2 0 0 false).isSome

def fitsBackward (pattern : Pattern) : Bool :=
  let start := leadIn (pattern.endsWith .textEnd)
  ((pattern.build .backward start).bind fun piece => piece.grow 1 0 0 false).isSome

def fits (pattern : Pattern) : Bool :=
  (pattern.fitsForward && pattern.fitsBackward) || pattern.isTextSearch

end Pattern

end SandboxPolicy.Regex
