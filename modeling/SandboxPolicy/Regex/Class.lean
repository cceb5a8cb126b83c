import SandboxPolicy.Regex.Escape

/-!
Bracketed classes: ranges, named classes, nested classes and the set operations between them. Open
brackets and pending operations are kept on a stack.
-/

namespace SandboxPolicy.Regex

structure Members where
  items : List ClassItem
  extent : Extent

namespace Members

def none (position : Position) : Members := ⟨[], ⟨position, position⟩⟩

def add (members : Members) (item : ClassItem) : Members :=
  let start := if members.items.isEmpty then item.extent.start else members.extent.start
  ⟨item :: members.items, ⟨start, item.extent.stop⟩⟩

def toItem (members : Members) : ClassItem :=
  match members.items with
  | [] => .empty members.extent
  | [item] => item
  | items => .union items.reverse members.extent

end Members

/-- An open bracket with the members before it, or an operation with its left side. -/
inductive OpenClass where
  | bracket (before : Members) (negated : Bool) (extent : Extent)
  | operation (operator : SetOperator) (left : ClassItem)

def posixClasses : List (String × List (Nat × Nat)) :=
  [("alnum", [(0x30, 0x39), (0x41, 0x5a), (0x61, 0x7a)]),
   ("alpha", [(0x41, 0x5a), (0x61, 0x7a)]),
   ("ascii", [(0x00, 0x7f)]),
   ("blank", [(0x09, 0x09), (0x20, 0x20)]),
   ("cntrl", [(0x00, 0x1f), (0x7f, 0x7f)]),
   ("digit", [(0x30, 0x39)]),
   ("graph", [(0x21, 0x7e)]),
   ("lower", [(0x61, 0x7a)]),
   ("print", [(0x20, 0x7e)]),
   ("punct", [(0x21, 0x2f), (0x3a, 0x40), (0x5b, 0x60), (0x7b, 0x7e)]),
   ("space", [(0x09, 0x0d), (0x20, 0x20)]),
   ("upper", [(0x41, 0x5a)]),
   ("word", [(0x30, 0x39), (0x41, 0x5a), (0x5f, 0x5f), (0x61, 0x7a)]),
   ("xdigit", [(0x30, 0x39), (0x41, 0x46), (0x61, 0x66)])]

def posixName? (text : List Char) : Option (List Char × List Char) :=
  match splitFirst? ':' text with
  | some (name, ']' :: rest) => some (name, rest)
  | _ => none

def posixClass? (text : List Char) : Option (List (Nat × Nat) × Bool × List Char) := do
  let inner ← afterStart? ['[', ':'] text
  let negated := inner.head? = some '^'
  let (name, rest) ← posixName? (if negated then inner.tail else inner)
  let (_, members) ← posixClasses.find? fun entry => entry.1.toList = name
  return (members, negated, rest)

/-- Reads a class named between colons; anything else is left to be read as a nested class. -/
def readPosixClass : Read (Option ClassItem) := do
  let cursor ← get
  match posixClass? cursor.rest with
  | none => return none
  | some (members, negated, rest) =>
      let taken := cursor.rest.take (cursor.rest.length - rest.length)
      let stop := taken.foldl Position.after cursor.position
      set { cursor with rest, position := stop }
      return some (.posix members negated ⟨cursor.position, stop⟩)

def leadingHyphens (start : Position) : Nat → Members → Read Members
  | 0, members => return members
  | steps + 1, members => do
      if (← peek) = some '-' then
        let extent ← charExtent
        if !(← advance) then fail .unclosedClass start start
        leadingHyphens start steps (members.add (.literal ⟨'-', false, extent⟩))
      else return members

/-- The start of a class, with its bracket next. A closing bracket that comes first stands for
itself. -/
def openBracket (before : Members) : Read (OpenClass × Members) := do
  let start ← here
  if !(← advance) then fail .unclosedClass start (← here)
  let negated := (← peek) = some '^'
  if negated then
    if !(← advance) then fail .unclosedClass start (← here)
  let members ← leadingHyphens start (← remaining) (.none (← here))
  if members.items.isEmpty && (← peek) = some ']' then
    let extent ← charExtent
    if !(← advance) then fail .unclosedClass start (← here)
    let bracket := OpenClass.bracket before negated ⟨start, ← here⟩
    return (bracket, members.add (.literal ⟨']', false, extent⟩))
  else return (.bracket before negated ⟨start, ← here⟩, members)

def innermost : List OpenClass → Extent
  | .bracket _ _ extent :: _ => extent
  | .operation _ _ :: rest => innermost rest
  | [] => default

def failUnclosed {α : Type} (stack : List OpenClass) : Read α :=
  failAt .unclosedClass (innermost stack)

def readClassPrimitive (c : Char) : Read Primitive :=
  if c = '\\' then readEscape else return .literal (← readVerbatim c)

/-- A single item or a range. A hyphen before a bracket or another hyphen makes no range. -/
def readRange (stack : List OpenClass) (c : Char) : Read ClassItem := do
  let first ← readClassPrimitive c
  skipBlanks
  match ← peek with
  | none => failUnclosed stack
  | some next =>
      let past ← peekPastBlanks
      if next ≠ '-' || past = some ']' || past = some '-' then first.toClassItem
      else
        if !(← advance) then failUnclosed stack
        match ← peek with
        | none => failUnclosed stack
        | some d =>
            let last ← readClassPrimitive d
            let extent : Extent := ⟨first.extent.start, last.extent.stop⟩
            let low ← first.toLiteral
            let high ← last.toLiteral
            if high.char < low.char then failAt .invalidClassRange extent
            return .range low high extent

def applyOperation (right : ClassItem) : List OpenClass → ClassItem × List OpenClass
  | .operation operator left :: rest =>
      (.operation operator left right ⟨left.extent.start, right.extent.stop⟩, rest)
  | stack => (right, stack)

def nextOperator (c : Char) (second : Option Char) : Option SetOperator :=
  if c = '&' && second = some '&' then some .intersection
  else if c = '-' && second = some '-' then some .difference
  else if c = '~' && second = some '~' then some .symmetricDifference
  else none

def readClassItems : Nat → List OpenClass → Members → Read Expression
  | 0, stack, _ => failUnclosed stack
  | steps + 1, stack, members => do
      skipBlanks
      match ← peek with
      | none => failUnclosed stack
      | some c =>
          if c = '[' then
            match ← readPosixClass with
            | some item => readClassItems steps stack (members.add item)
            | none =>
                let (bracket, inner) ← openBracket members
                readClassItems steps (bracket :: stack) inner
          else if c = ']' then
            match applyOperation members.toItem stack with
            | (inner, .bracket before negated extent :: rest) =>
                bump
                let whole : Extent := ⟨extent.start, ← here⟩
                if rest.isEmpty then return .bracketed inner negated whole
                else readClassItems steps rest (before.add (.bracketed inner negated whole))
            | (_, stack) => failUnclosed stack
          else
            match nextOperator c (← peekSecond) with
            | some operator =>
                bump
                bump
                let (left, rest) := applyOperation members.toItem stack
                readClassItems steps (.operation operator left :: rest) (.none (← here))
            | none =>
                let item ← readRange stack c
                readClassItems steps stack (members.add item)

def readClass : Read Expression := do
  let (bracket, members) ← openBracket (.none (← here))
  readClassItems ((← remaining) + 1) [bracket] members

end SandboxPolicy.Regex
