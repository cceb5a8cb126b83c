import SandboxPolicy.Regex.ByteRows
import Std.Data.HashMap

/-!
The automaton of a set of characters over their bytes, as far as its size depends on it. States that
would be equal are shared as long as they are remembered: the memory has a fixed number of slots,
chosen by a hash of the state, and each slot remembers the last state put there.
-/

namespace SandboxPolicy.Regex

/-- What takes room in an automaton: its states, the ranges of bytes that states tell apart and the
branches between which states choose. -/
structure Footprint where
  states : Nat
  ranges : Nat
  branches : Nat
deriving Repr, DecidableEq

namespace Footprint

def bytes (footprint : Footprint) : Nat :=
  32 * footprint.states + 8 * footprint.ranges + 4 * footprint.branches

def add (footprint other : Footprint) : Footprint :=
  ⟨footprint.states + other.states, footprint.ranges + other.ranges,
    footprint.branches + other.branches⟩

end Footprint

def mixHash (hash : UInt64) (value : Nat) : UInt64 := (hash ^^^ value.toUInt64) * 1099511628211

def slotOf (slots : Nat) (numbers : List Nat) : Nat :=
  (numbers.foldl mixHash 14695981039346656037).toNat % slots

structure StateMemory where
  slots : Nat
  states : Std.HashMap Nat (List Nat × Nat)

namespace StateMemory

def empty (slots : Nat) : StateMemory := ⟨slots, {}⟩

def find? (memory : StateMemory) (numbers : List Nat) : Option Nat :=
  match memory.states[slotOf memory.slots numbers]? with
  | some (known, state) => if known = numbers then some state else none
  | none => none

def insert (memory : StateMemory) (numbers : List Nat) (state : Nat) : StateMemory :=
  { memory with states := memory.states.insert (slotOf memory.slots numbers) (numbers, state) }

end StateMemory

structure CharAutomaton where
  footprint : Footprint
  memory : StateMemory

namespace CharAutomaton

/-- The state made up of the numbers, old or new. A new one tells apart `ranges` ranges. -/
def stateOf (automaton : CharAutomaton) (numbers : List Nat) (ranges : Nat) :
    Nat × CharAutomaton :=
  match automaton.memory.find? numbers with
  | some state => (state, automaton)
  | none =>
      let state := automaton.footprint.states
      (state, ⟨automaton.footprint.add ⟨1, ranges, 0⟩, automaton.memory.insert numbers state⟩)

def groupRows : List (List ByteRange) → List (ByteRange × List (List ByteRange))
  | (range :: more) :: rest =>
      match groupRows rest with
      | (other, rows) :: groups =>
          if other = range then (range, more :: rows) :: groups
          else (range, [more]) :: (other, rows) :: groups
      | [] => [(range, [more])]
  | _ => []

/-- The state that reads any of the rows and goes on to `target`; a row is as long as a character
at most. -/
def readRows (target : Nat) : (length : Nat) → List (List ByteRange) → CharAutomaton →
    Nat × CharAutomaton
  | 0, _, automaton => (target, automaton)
  | length + 1, rows, automaton =>
      if rows.all List.isEmpty then (target, automaton)
      else
        let (numbers, count, automaton) :=
          (groupRows rows).foldl
            (fun (numbers, count, automaton) (range, more) =>
              let (next, automaton) := readRows target length more automaton
              ([next, range.2, range.1] ++ numbers, count + 1, automaton))
            (([], 0, automaton) : List Nat × Nat × CharAutomaton)
        automaton.stateOf numbers.reverse count

/-- The footprint with an automaton that reads a character of the set. States are shared from the
ends of the rows. -/
def forward (set : CharSet) (footprint : Footprint) : Footprint :=
  let target := footprint.states
  let start : CharAutomaton := ⟨footprint.add ⟨1, 0, 0⟩, .empty 10000⟩
  (readRows target 4 (byteRows set) start).2.footprint

/-- The state that reads the ranges of a row before `target`, the last of them first. -/
def readBackRow (target : Nat) (row : List ByteRange) (automaton : CharAutomaton) :
    CharAutomaton :=
  (row.foldl
    (fun (next, automaton) range => automaton.stateOf [next, range.1, range.2] 0)
    (target, automaton)).2

/-- The footprint with an automaton that reads a character of the set from its end. A state chooses
between the rows, and states are shared from the starts of the rows. -/
def backward (set : CharSet) (footprint : Footprint) : Footprint :=
  let rows := byteRows set
  let target := footprint.states + 1
  let start : CharAutomaton := ⟨footprint.add ⟨2, 0, rows.length⟩, .empty 1000⟩
  (rows.foldl (fun automaton row => readBackRow target row automaton) start).footprint

end CharAutomaton

end SandboxPolicy.Regex
