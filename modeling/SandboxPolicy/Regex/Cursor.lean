import SandboxPolicy.Regex.Fault
import SandboxPolicy.Text.Numeral

/-!
A place in a pattern while it is read. Where blanks are ignored, moving on also passes over blanks
and comments.
-/

namespace SandboxPolicy.Regex

structure Cursor where
  rest : List Char
  position : Position
  ignoreBlanks : Bool
  names : List (String × Extent)

abbrev Read := StateT Cursor (Except Fault)

def fail {α : Type} (kind : FaultKind) (start stop : Position) : Read α :=
  throw ⟨kind, ⟨start, stop⟩, none⟩

def failAt {α : Type} (kind : FaultKind) (extent : Extent) : Read α :=
  throw ⟨kind, extent, none⟩

def peek : Read (Option Char) := return (← get).rest.head?

def here : Read Position := return (← get).position

def atEnd : Read Bool := return (← get).rest.isEmpty

def charExtent : Read Extent := do
  let cursor ← get
  match cursor.rest with
  | [] => return ⟨cursor.position, cursor.position⟩
  | c :: _ => return ⟨cursor.position, cursor.position.after c⟩

def bump : Read Unit := modify fun cursor =>
  match cursor.rest with
  | [] => cursor
  | c :: rest => { cursor with rest, position := cursor.position.after c }

def skipFrom (inComment : Bool) : List Char → Position → List Char × Position
  | [], position => ([], position)
  | c :: rest, position =>
      if inComment then skipFrom (c ≠ '\n') rest (position.after c)
      else if isBlank c then skipFrom false rest (position.after c)
      else if c = '#' then skipFrom true rest (position.after c)
      else (c :: rest, position)

def skipBlanks : Read Unit := modify fun cursor =>
  if cursor.ignoreBlanks then
    let (rest, position) := skipFrom false cursor.rest cursor.position
    { cursor with rest, position }
  else cursor

def advance : Read Bool := do
  bump
  skipBlanks
  return !(← atEnd)

def bumpIf (text : String) : Read Bool := do
  match afterStart? text.toList (← get).rest with
  | none => return false
  | some rest =>
      modify fun cursor =>
        { cursor with rest, position := text.toList.foldl Position.after cursor.position }
      return true

def peekSecond : Read (Option Char) := return (← get).rest.tail.head?

def significant : Bool → List Char → Option (List Char)
  | _, [] => none
  | inComment, c :: rest =>
      if isBlank c then significant inComment rest
      else if !inComment && c = '#' then significant true rest
      else some (c :: rest)

def peekPastBlanks : Read (Option Char) := do
  let cursor ← get
  let after := cursor.rest.tail
  if cursor.ignoreBlanks then return ((significant false after).getD after).head?
  else return after.head?

def collect (accept : Char → Bool) : Nat → Read (List Char)
  | 0 => return []
  | steps + 1 => do
      match ← peek with
      | none => return []
      | some c =>
          if accept c then
            let _ ← advance
            return c :: (← collect accept steps)
          else return []

def remaining : Read Nat := return (← get).rest.length

def skipWhite : Read Unit := modify fun cursor =>
  let white := cursor.rest.takeWhile isBlank
  { cursor with
    rest := cursor.rest.dropWhile isBlank
    position := white.foldl Position.after cursor.position }

def readDecimal : Read Nat := do
  skipWhite
  let start ← here
  let digits ← collect isDigit (← remaining)
  let stop ← here
  if (← peek).any isBlank then
    skipWhite
    skipBlanks
  if digits.isEmpty then fail .emptyDecimal start stop
  match readDigits 0xffffffff digits with
  | some value => return value
  | none => fail .invalidDecimal start stop

end SandboxPolicy.Regex
