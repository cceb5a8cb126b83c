import SandboxPolicy.Regex.Pattern
import SandboxPolicy.Regex.Property

/-!
Matching by sets of places: from the places where a part of a pattern may begin follow those where
it may end. A set of places never grows beyond the text, so every repetition comes to rest.
-/

namespace SandboxPolicy.Regex

def mergePlaces : List Nat → List Nat → List Nat
  | [], right => right
  | left, [] => left
  | a :: left, b :: right =>
      if a < b then a :: mergePlaces left (b :: right)
      else if b < a then b :: mergePlaces (a :: left) right
      else a :: mergePlaces left right
termination_by left right => left.length + right.length

def withoutPlaces : List Nat → List Nat → List Nat
  | [], _ => []
  | left, [] => left
  | a :: left, b :: right =>
      if a < b then a :: withoutPlaces left (b :: right)
      else if b < a then withoutPlaces (a :: left) right
      else withoutPlaces left right
termination_by left right => left.length + right.length

def wordAt (unicode : Bool) (text : Array Char) (place : Nat) : Bool :=
  text[place]?.any (if unicode then wordSet else asciiWordSet).contains

def wordBefore (unicode : Bool) (text : Array Char) : Nat → Bool
  | 0 => false
  | place + 1 => wordAt unicode text place

def charBefore (text : Array Char) : Nat → Option Char
  | 0 => none
  | place + 1 => text[place]?

namespace Look

def holds (look : Look) (text : Array Char) (place : Nat) : Bool :=
  match look with
  | .textStart => place == 0
  | .textEnd => place == text.size
  | .lineStart carriageReturns =>
      let before := charBefore text place
      before.isNone || before == some '\n' ||
        (carriageReturns && before == some '\r' && text[place]? != some '\n')
  | .lineEnd carriageReturns =>
      let next := text[place]?
      if carriageReturns then
        next.isNone || next == some '\r' ||
          (next == some '\n' && charBefore text place != some '\r')
      else next.isNone || next == some '\n'
  | .wordBoundary unicode => wordBefore unicode text place != wordAt unicode text place
  | .notWordBoundary unicode => wordBefore unicode text place == wordAt unicode text place
  | .wordStart unicode => !wordBefore unicode text place && wordAt unicode text place
  | .wordEnd unicode => wordBefore unicode text place && !wordAt unicode text place
  | .wordStartHalf unicode => !wordBefore unicode text place
  | .wordEndHalf unicode => !wordAt unicode text place

end Look

/-- Follows `step` exactly `count` times, or until nothing changes any more. -/
def followExactly (step : List Nat → List Nat) : Nat → List Nat → List Nat
  | 0, places => places
  | count + 1, places =>
      let next := step places
      if next = places then places else followExactly step count next

/-- Follows `step` up to `count` times from the places that are new, until none is. -/
def followUpTo (step : List Nat → List Nat) : Nat → List Nat → List Nat → List Nat
  | 0, reached, _ => reached
  | count + 1, reached, fresh =>
      let next := withoutPlaces (step fresh) reached
      if next.isEmpty then reached else followUpTo step count (mergePlaces reached next) next

namespace Pattern

def pastChar (text : Array Char) (accept : Char → Bool) (places : List Nat) : List Nat :=
  places.filterMap fun place => if text[place]?.any accept then some (place + 1) else none

mutual

/-- The places where the pattern may end when it begins at one of the given places. -/
def ends (text : Array Char) : Pattern → List Nat → List Nat
  | .empty, places => places
  | .literal wanted, places => wanted.foldl (fun reached c => pastChar text (· == c) reached) places
  | .chars set _, places => pastChar text set.contains places
  | .look condition, places => places.filter (condition.holds text)
  | .sequence items, places => endsOfAll text items places
  | .either branches, places => endsOfAny text branches places
  | .repeated item least most _, places =>
      let start := followExactly (item.ends text) least places
      let further := (most.map (· - least)).getD (text.size + 1)
      followUpTo (item.ends text) further start start
  | .captured body, places => body.ends text places

def endsOfAll (text : Array Char) : List Pattern → List Nat → List Nat
  | [], places => places
  | item :: rest, places => endsOfAll text rest (item.ends text places)

def endsOfAny (text : Array Char) : List Pattern → List Nat → List Nat
  | [], _ => []
  | branch :: rest, places => mergePlaces (branch.ends text places) (endsOfAny text rest places)

end

/-- Does the pattern match anywhere in the text? -/
def matchesText (pattern : Pattern) (text : String) : Bool :=
  let chars := text.toList.toArray
  !(pattern.ends chars (List.range (chars.size + 1))).isEmpty

end Pattern

end SandboxPolicy.Regex
