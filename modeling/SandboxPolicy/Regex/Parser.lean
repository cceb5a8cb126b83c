import SandboxPolicy.Regex.Class

/-!
Reading a pattern. Open groups and their alternatives are kept on a stack, so that a group that is
never closed is reported where it was opened.
-/

namespace SandboxPolicy.Regex

structure Items where
  items : List Expression
  start : Position

namespace Items

def none (start : Position) : Items := ⟨[], start⟩

def add (items : Items) (item : Expression) : Items := ⟨item :: items.items, items.start⟩

def toExpression (items : Items) (stop : Position) : Expression :=
  match items.items with
  | [] => .empty ⟨items.start, stop⟩
  | [item] => item
  | several => .sequence several.reverse ⟨items.start, stop⟩

end Items

/-- An open group with the items before it, or the alternatives read so far, in reverse. -/
inductive OpenGroup where
  | group (before : Items) (changes : FlagChanges) (captures : Bool) (extent : Extent)
      (ignoredBlanks : Bool)
  | branches (earlier : List Expression) (start : Position)

inductive Opening where
  | flags (changes : FlagChanges) (extent : Extent)
  | group (changes : FlagChanges) (captures : Bool) (extent : Extent)

def flagOf (c : Char) : Option Flag :=
  if c = 'i' then some .ignoreCase
  else if c = 'm' then some .multiLine
  else if c = 's' then some .dotMatchesNewline
  else if c = 'U' then some .swapGreed
  else if c = 'u' then some .unicode
  else if c = 'R' then some .carriageReturns
  else if c = 'x' then some .ignoreBlanks
  else none

structure FlagItem where
  flag : Option Flag
  extent : Extent

def readFlagItems : Nat → List FlagItem → Read (List FlagItem)
  | 0, items => return items
  | steps + 1, items => do
      match ← peek with
      | none => fail .unfinishedFlags (← here) (← here)
      | some c =>
          if c = ':' || c = ')' then return items
          else
            let extent ← charExtent
            let flag := if c = '-' then none else flagOf c
            if c ≠ '-' && flag.isNone then failAt .unrecognizedFlag extent
            match items.find? fun item => item.flag = flag with
            | some earlier =>
                let kind := if flag.isNone then FaultKind.repeatedNegation else .duplicateFlag
                throw ⟨kind, extent, some earlier.extent⟩
            | none =>
                bump
                if ← atEnd then fail .unfinishedFlags (← here) (← here)
                readFlagItems steps (⟨flag, extent⟩ :: items)

def flagChanges (on : Bool) : List FlagItem → FlagChanges
  | [] => []
  | ⟨none, _⟩ :: rest => flagChanges false rest
  | ⟨some flag, _⟩ :: rest => (flag, on) :: flagChanges on rest

def readFlags : Read (List FlagItem) := do
  let items ← readFlagItems ((← remaining) + 1) []
  match items with
  | ⟨none, extent⟩ :: _ => failAt .danglingNegation extent
  | _ => return items.reverse

def isNameChar (first : Bool) (c : Char) : Bool :=
  if first then c = '_' || isAlphabetic c
  else c = '_' || c = '.' || c = '[' || c = ']' || isAlphanumeric c

def readNameChars : Nat → Bool → Read (List Char)
  | 0, _ => return []
  | steps + 1, first => do
      match ← peek with
      | none => return []
      | some c =>
          if c = '>' then return []
          else if isNameChar first c then
            bump
            return c :: (← readNameChars steps false)
          else failAt .invalidName (← charExtent)

def readGroupName : Read Unit := do
  let start ← here
  if ← atEnd then fail .unclosedName start start
  let name ← readNameChars (← remaining) true
  let stop ← here
  if ← atEnd then fail .unclosedName stop stop
  bump
  if name.isEmpty then fail .emptyName start start
  let text := String.ofList name
  match (← get).names.find? fun entry => entry.1 = text with
  | some entry => throw ⟨.duplicateName, ⟨start, stop⟩, some entry.2⟩
  | none => modify fun cursor => { cursor with names := (text, ⟨start, stop⟩) :: cursor.names }

def readOpening : Read Opening := do
  let extent ← charExtent
  bump
  skipBlanks
  if (← bumpIf "?=") || (← bumpIf "?!") || (← bumpIf "?<=") || (← bumpIf "?<!") then
    fail .lookAround extent.start (← here)
  let inner ← here
  if (← bumpIf "?P<") || (← bumpIf "?<") then
    readGroupName
    return .group [] true extent
  else if ← bumpIf "?" then
    if ← atEnd then failAt .unclosedGroup extent
    let items ← readFlags
    let closing ← peek
    bump
    let changes := flagChanges true items
    if closing = some ')' then
      if items.isEmpty then fail .nothingToRepeat inner inner
      return .flags changes ⟨extent.start, ← here⟩
    else return .group changes false extent
  else return .group [] true extent

def pushBranch (items : Items) (stop : Position) : List OpenGroup → List OpenGroup
  | .branches earlier start :: rest => .branches (items.toExpression stop :: earlier) start :: rest
  | stack => .branches [items.toExpression stop] items.start :: stack

def finishBranches (items : Items) (stop : Position) : List OpenGroup → Expression × List OpenGroup
  | .branches earlier start :: rest =>
      (.alternation (items.toExpression stop :: earlier).reverse ⟨start, stop⟩, rest)
  | stack => (items.toExpression stop, stack)

def closeGroup (stack : List OpenGroup) (items : Items) : Read (List OpenGroup × Items) := do
  match finishBranches items (← here) stack with
  | (body, .group before changes captures extent ignoredBlanks :: rest) =>
      modify fun cursor => { cursor with ignoreBlanks := ignoredBlanks }
      bump
      return (rest, before.add (.group changes captures body ⟨extent.start, ← here⟩))
  | _ => failAt .unopenedGroup (← charExtent)

def closePattern (stack : List OpenGroup) (items : Items) : Read Expression := do
  match finishBranches items (← here) stack with
  | (_, .group _ _ _ extent _ :: _) => failAt .unclosedGroup extent
  | (whole, _) => return whole

def repeatable (items : Items) : Read (Expression × Items) := do
  match items.items with
  | [] | .empty _ :: _ | .flags _ _ :: _ => fail .nothingToRepeat (← here) (← here)
  | item :: earlier => return (item, ⟨earlier, items.start⟩)

/-- A repetition takes as much as it can unless a question mark follows it. -/
def readGreed : Read Bool := do
  if (← peek) = some '?' then
    bump
    return false
  else return true

def readRepetition (items : Items) (least : Nat) (most : Option Nat) : Read Items := do
  let (item, earlier) ← repeatable items
  bump
  let greedy ← readGreed
  return earlier.add (.repetition item least most greedy ⟨item.extent.start, ← here⟩)

def countFault (fault : Fault) : Fault :=
  if fault.kind = .emptyDecimal then { fault with kind := .emptyCount } else fault

/-- A number in a repetition; a fault is kept, since a missing brace comes before it. -/
def readCount : Read (Except Fault Nat) := do
  let before ← get
  match readDecimal.run before with
  | .ok (value, after) =>
      set after
      return .ok value
  | .error fault =>
      if fault.kind = .emptyDecimal then skipWhite
      else
        skipWhite
        let _ ← collect isDigit (← remaining)
        skipWhite
        skipBlanks
      return .error (countFault fault)

def readCounted (items : Items) : Read Items := do
  let start ← here
  let (item, earlier) ← repeatable items
  if !(← advance) then fail .unclosedCount start (← here)
  let first ← readCount
  if ← atEnd then fail .unclosedCount start (← here)
  let (least, most) ← do
    if (← peek) = some ',' then
      if !(← advance) then fail .unclosedCount start (← here)
      if (← peek) = some '\x7d' then
        let least ← first
        pure (least, none)
      else
        let least ← first
        let most ← (← readCount)
        pure (least, some most)
    else
      let count ← first
      pure (count, some count)
  if (← peek) ≠ some '\x7d' then fail .unclosedCount start (← here)
  let _ ← advance
  let greedy ← readGreed
  let stop ← here
  if most.any (· < least) then fail .invalidCount start stop
  return earlier.add (.repetition item least most greedy ⟨item.extent.start, stop⟩)

def readItems : Nat → List OpenGroup → Items → Read Expression
  | 0, stack, items => closePattern stack items
  | steps + 1, stack, items => do
      skipBlanks
      match ← peek with
      | none => closePattern stack items
      | some '(' =>
          match ← readOpening with
          | .flags changes extent =>
              if let some ignored := changes.state .ignoreBlanks then
                modify fun cursor => { cursor with ignoreBlanks := ignored }
              readItems steps stack (items.add (.flags changes extent))
          | .group changes captures extent =>
              let ignored := (← get).ignoreBlanks
              let inner := (changes.state .ignoreBlanks).getD ignored
              modify fun cursor => { cursor with ignoreBlanks := inner }
              readItems steps (.group items changes captures extent ignored :: stack)
                (.none (← here))
      | some ')' =>
          let (outer, items) ← closeGroup stack items
          readItems steps outer items
      | some '|' =>
          let stop ← here
          bump
          readItems steps (pushBranch items stop stack) (.none (← here))
      | some '[' =>
          let item ← readClass
          readItems steps stack (items.add item)
      | some '?' => readItems steps stack (← readRepetition items 0 (some 1))
      | some '*' => readItems steps stack (← readRepetition items 0 none)
      | some '+' => readItems steps stack (← readRepetition items 1 none)
      | some '\x7b' => readItems steps stack (← readCounted items)
      | some c =>
          let item ← readPrimitive c
          readItems steps stack (items.add item.toExpression)

def nestingLimit : Nat := 250

def read (pattern : String) : Except Fault Expression := do
  let text := pattern.toList
  let cursor : Cursor := ⟨text, .start, false, []⟩
  let (expression, _) ← (readItems (text.length + 1) [] (.none .start)).run cursor
  match expression.tooDeep nestingLimit 0 with
  | some extent => throw ⟨.tooDeeplyNested nestingLimit, extent, none⟩
  | none => return expression

end SandboxPolicy.Regex
