import SandboxPolicy.Regex.Pattern

/-!
Patterns that come down to texts. Where a pattern matches a few short texts and nothing else, or
where it is a long list of texts, the texts are searched for, and no automaton is needed.
-/

namespace SandboxPolicy.Regex

abbrev Bytes := List UInt8

def bytesOf (text : List Char) : Bytes := utf8Bytes (String.ofList text)

/-! ## The texts of a pattern -/

/-- The greatest number of characters of a set, and of repetitions, that are written out. -/
def greatestChoice : Nat := 10

def greatestCount : Nat := 250

def greatestLength : Nat := 100

def withoutRepeats : List Bytes → List Bytes
  | a :: b :: rest => if a = b then withoutRepeats (b :: rest) else a :: withoutRepeats (b :: rest)
  | texts => texts

/-- Every text of the first list followed by every text of the second, if there is room. -/
def crossed (left right : List Bytes) : Option (List Bytes) :=
  let product := left.flatMap fun a => right.map fun b => a ++ b
  if greatestCount < product.length || product.any fun text => greatestLength < text.length then
    none
  else some (withoutRepeats product)

def joined (left right : List Bytes) : Option (List Bytes) :=
  if greatestCount < left.length + right.length then none
  else some (withoutRepeats (left ++ right))

def copiedTexts (texts : List Bytes) : Nat → List Bytes → Option (List Bytes)
  | 0, reached => some reached
  | count + 1, reached =>
      if reached.isEmpty then some [] else do copiedTexts texts count (← crossed reached texts)

/-- The texts that repeating some texts gives. Where there are no texts, nothing is cut short. -/
def repeatedTexts (texts : List Bytes) (least : Nat) (most : Option Nat) (greedy : Bool) :
    Option (List Bytes) :=
  if least = 0 then
    if most = some 1 || texts.isEmpty then
      if greedy then joined texts [[]] else joined [[]] texts
    else none
  else do
    let copied ← copiedTexts texts (min least greatestChoice) [[]]
    if copied.isEmpty || (most = some least && least ≤ greatestChoice) then some copied else none

namespace Pattern

def fewChars (set : CharSet) : Option (List Bytes) :=
  let count : Nat := set.ranges.foldl (fun count range => count + (range.2 - range.1 + 1)) 0
  if greatestChoice < count then none
  else
    some (set.ranges.toList.flatMap fun range =>
      (List.range (range.2 - range.1 + 1)).map fun index => bytesOf [Char.ofNat (range.1 + index)])

mutual

/-- The texts that a pattern without conditions and groups matches, the preferred ones first, if
they are few and short. -/
def texts? : Pattern → Option (List Bytes)
  | .empty => some [[]]
  | .literal text => crossed [[]] [bytesOf text]
  | .chars set _ => fewChars set
  | .look _ | .captured _ => none
  | .sequence items => sequenceTexts [[]] items
  | .either branches => choiceTexts [] branches
  | .repeated item least most greedy => do repeatedTexts (← item.texts?) least most greedy

def sequenceTexts (reached : List Bytes) : List Pattern → Option (List Bytes)
  | [] => some reached
  | item :: rest =>
      if reached.isEmpty then some []
      else do sequenceTexts (← crossed reached (← item.texts?)) rest

def choiceTexts (found : List Bytes) : List Pattern → Option (List Bytes)
  | [] => some found
  | branch :: rest => do choiceTexts (← joined found (← branch.texts?)) rest

end

mutual

def isPlain : Pattern → Bool
  | .empty | .literal _ | .chars _ _ => true
  | .look _ | .captured _ => false
  | .sequence items => allPlain items
  | .either branches => allPlain branches
  | .repeated item _ _ _ => item.isPlain

def allPlain : List Pattern → Bool
  | [] => true
  | item :: rest => item.isPlain && allPlain rest

end

end Pattern

/-! ## Whether to search for the texts -/

def withoutCovered (texts : List Bytes) : List Bytes :=
  texts.foldl (fun kept text =>
    if kept.any fun other => other.isPrefixOf text then kept else kept ++ [text]) []

def commonStart : Bytes → Bytes → Bytes
  | a :: left, b :: right => if a = b then a :: commonStart left right else []
  | _, _ => []

def sharedBytes : List Bytes → Bytes
  | [] => []
  | first :: rest => rest.foldl commonStart first

def isFrequent (byte : UInt8) : Bool :=
  if byte < 0x80 then
    "\n\r (),-./0129:_abcdefghilmnoprstuvxy|".toList.contains (Char.ofNat byte.toNat)
  else
    byte ≤ 0x84 || [0x90, 0xb1, 0xb5, 0xb6, 0xb7].contains byte ||
      (0xb9 ≤ byte && byte ≠ 0xbe)

def shortened : List (Nat × Nat) → List Bytes → List Bytes
  | [], texts => texts
  | (length, limit) :: rounds, texts =>
      if texts.length ≤ limit then texts
      else shortened rounds (withoutCovered (texts.map fun text => text.take length))

/-- Are the starts of many texts preferred to the texts? They are if they differ from the texts, are
few and of three bytes at least. -/
def prefersStarts (texts : List Bytes) : Bool :=
  let starts := shortened [(5, 10), (4, 10), (3, 64), (2, 64), (1, 10)] texts
  starts ≠ texts && starts.all (fun start => 2 < start.length) && starts.length ≤ 64

def searchedWhole (texts : List Bytes) : Bool :=
  let kept := withoutCovered texts
  let shared := sharedBytes kept
  if texts.isEmpty || texts.any List.isEmpty then false
  else if 1 < texts.length && 1 ≤ shared.length && shared.length ≤ 3 &&
      !shared.head?.any isFrequent then
    kept.all fun text => text.length = 1
  else if 4 < shared.length || (1 < shared.length && 16 < kept.length) then
    kept.all fun text => text.length = shared.length
  else !prefersStarts kept

namespace Pattern

def text? : Pattern → Option (List Char)
  | .literal text => some text
  | _ => none

def isWordList : Pattern → Bool
  | .either branches => 3000 ≤ branches.length && (branches.mapM text?).isSome
  | _ => false

def isTextSearch (pattern : Pattern) : Bool :=
  pattern.isWordList || (pattern.isPlain && pattern.texts?.any searchedWhole)

end Pattern

end SandboxPolicy.Regex
