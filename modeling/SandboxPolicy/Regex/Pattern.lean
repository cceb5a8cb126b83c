import SandboxPolicy.Text.CharSet
import SandboxPolicy.Text.Utf8

/-!
What a regular expression means: texts, sets of characters, conditions on places, and the ways to
combine them. Flags are gone. The functions that combine patterns keep them in a normal form: texts
that follow each other are one text, a sequence holds no sequence, a choice no choice, and what
matches the empty text alone is repeated once at most.
-/

namespace SandboxPolicy.Regex

/-- A condition on a place in the text; `unicode` says which characters make words. -/
inductive Look where
  | textStart
  | textEnd
  | lineStart (carriageReturns : Bool)
  | lineEnd (carriageReturns : Bool)
  | wordBoundary (unicode : Bool)
  | notWordBoundary (unicode : Bool)
  | wordStart (unicode : Bool)
  | wordEnd (unicode : Bool)
  | wordStartHalf (unicode : Bool)
  | wordEndHalf (unicode : Bool)
deriving Repr, DecidableEq

/-- A pattern. The set of `chars` is `bytewise` when it was written without Unicode. -/
inductive Pattern where
  | empty
  | literal (text : List Char)
  | chars (set : CharSet) (bytewise : Bool)
  | look (condition : Look)
  | sequence (items : List Pattern)
  | either (branches : List Pattern)
  | repeated (item : Pattern) (least : Nat) (most : Option Nat) (greedy : Bool)
  | captured (body : Pattern)
deriving Inhabited

namespace Pattern

def never : Pattern := .chars .empty true

def ofSet (set : CharSet) (bytewise : Bool) : Pattern :=
  if set.isEmpty then never
  else
    match set.only? with
    | some c => .literal [c]
    | none => .chars set bytewise

mutual

def isEmptyOnly : Pattern → Bool
  | .empty | .look _ => true
  | .literal _ | .chars _ _ => false
  | .sequence items => allEmptyOnly items
  | .either branches => allEmptyOnly branches
  | .repeated item _ most _ => most.isSome && item.isEmptyOnly
  | .captured body => body.isEmptyOnly

def allEmptyOnly : List Pattern → Bool
  | [] => true
  | item :: rest => item.isEmptyOnly && allEmptyOnly rest

end

mutual

def leastLength : Pattern → Option Nat
  | .empty | .look _ => some 0
  | .literal text => some (text.map Char.utf8Size).sum
  | .chars set _ => set.ranges[0]?.map fun range => (Char.ofNat range.1).utf8Size
  | .sequence items => (leastLengths items).map List.sum
  | .either branches => (leastLengths branches).bind List.min?
  | .repeated item least _ _ => item.leastLength.map (· * least)
  | .captured body => body.leastLength

def leastLengths : List Pattern → Option (List Nat)
  | [] => some []
  | item :: rest => do return (← item.leastLength) :: (← leastLengths rest)

end

mutual

/-- Is every match bound to a place where the condition holds before anything is taken? -/
def beginsWith (condition : Look) : Pattern → Bool
  | .empty | .literal _ | .chars _ _ => false
  | .look other => other = condition
  | .sequence items => anyBeginsWith condition items
  | .either branches => allBeginWith condition branches
  | .repeated item least _ _ => 0 < least && item.beginsWith condition
  | .captured body => body.beginsWith condition

def anyBeginsWith (condition : Look) : List Pattern → Bool
  | [] => false
  | item :: rest =>
      item.beginsWith condition || (item.isEmptyOnly && anyBeginsWith condition rest)

def allBeginWith (condition : Look) : List Pattern → Bool
  | [] => true
  | item :: rest => item.beginsWith condition && allBeginWith condition rest

end

mutual

def endsWith (condition : Look) : Pattern → Bool
  | .empty | .literal _ | .chars _ _ => false
  | .look other => other = condition
  | .sequence items => (anyEndsWith condition items).1
  | .either branches => allEndWith condition branches
  | .repeated item least _ _ => 0 < least && item.endsWith condition
  | .captured body => body.endsWith condition

/-- Does a sequence end so, and is it empty-only, so that what stands before it counts too? -/
def anyEndsWith (condition : Look) : List Pattern → Bool × Bool
  | [] => (false, true)
  | item :: rest =>
      let (found, emptyOnly) := anyEndsWith condition rest
      (found || (emptyOnly && item.endsWith condition), emptyOnly && item.isEmptyOnly)

def allEndWith (condition : Look) : List Pattern → Bool
  | [] => true
  | item :: rest => item.endsWith condition && allEndWith condition rest

end

mutual

/-- Are two patterns written alike? Each group that captures differs from every other. -/
def alike : Pattern → Pattern → Bool
  | .empty, .empty => true
  | .literal a, .literal b => a == b
  | .chars a bytesA, .chars b bytesB => a == b && bytesA == bytesB
  | .look a, .look b => a = b
  | .sequence a, .sequence b | .either a, .either b => allAlike a b
  | .repeated a leastA mostA greedyA, .repeated b leastB mostB greedyB =>
      leastA == leastB && mostA == mostB && greedyA == greedyB && a.alike b
  | _, _ => false

def allAlike : List Pattern → List Pattern → Bool
  | [], [] => true
  | a :: left, b :: right => a.alike b && allAlike left right
  | _, _ => false

end

/-- A repetition. What matches the empty text alone need not be repeated. -/
def repetition (item : Pattern) (least : Nat) (most : Option Nat) (greedy : Bool) : Pattern :=
  let least' := if item.isEmptyOnly then min least 1 else least
  let most' := if item.isEmptyOnly then some (min (most.getD 1) 1) else most
  if least' = 0 && most' = some 0 then .empty
  else if least' = 1 && most' = some 1 then item
  else .repeated item least' most' greedy

def parts : Pattern → List Pattern
  | .empty => []
  | .sequence items => items
  | other => [other]

def joinLiterals : List Pattern → List Pattern
  | .literal text :: rest =>
      match joinLiterals rest with
      | .literal more :: others => .literal (text ++ more) :: others
      | others => .literal text :: others
  | item :: rest => item :: joinLiterals rest
  | [] => []

def concat (items : List Pattern) : Pattern :=
  match joinLiterals (items.flatMap parts) with
  | [] => .empty
  | [item] => item
  | several => .sequence several

def alternatives : Pattern → List Pattern
  | .either branches => branches
  | other => [other]

def char? : Pattern → Option Char
  | .literal [c] => some c
  | _ => none

def set? : Pattern → Option CharSet
  | .chars set _ => some set
  | _ => none

def choiceSet? (branches : List Pattern) : Option CharSet :=
  match branches.mapM char? with
  | some several => some (.ofRanges (several.map fun c => (c.toNat, c.toNat)))
  | none => (branches.mapM set?).map fun sets => sets.foldl CharSet.union .empty

def items? : Pattern → Option (List Pattern)
  | .sequence items => some items
  | _ => none

def sharedStart : List Pattern → List Pattern → List Pattern
  | a :: left, b :: right => if a.alike b then a :: sharedStart left right else []
  | _, _ => []

def splitStart? (branches : List Pattern) : Option (List Pattern × List Pattern) := do
  let rows ← branches.mapM items?
  let first ← rows.head?
  let start := rows.foldl sharedStart first
  if start.isEmpty then none
  else some (start, rows.map fun row => concat (row.drop start.length))

/-- A choice. A choice between characters is a set, and what all branches begin with stands before
the choice; each round takes at least one item from every branch. -/
def choiceWithin : (rounds : Nat) → List Pattern → Pattern
  | rounds, branches =>
      match branches.flatMap alternatives with
      | [] => never
      | [branch] => branch
      | several =>
          match choiceSet? several with
          | some set => ofSet set false
          | none =>
              match rounds, splitStart? several with
              | rounds + 1, some (start, ends) => concat (start ++ [choiceWithin rounds ends])
              | _, _ => .either several

mutual

def weight : Pattern → Nat
  | .empty | .literal _ | .chars _ _ | .look _ => 1
  | .sequence items => totalWeight items + 1
  | .either branches => totalWeight branches + 1
  | .repeated item _ _ _ => item.weight + 1
  | .captured body => body.weight + 1

def totalWeight : List Pattern → Nat
  | [] => 0
  | item :: rest => item.weight + totalWeight rest

end

def choice (branches : List Pattern) : Pattern := choiceWithin (totalWeight branches) branches

end Pattern

end SandboxPolicy.Regex
