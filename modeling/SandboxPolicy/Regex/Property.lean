import SandboxPolicy.Regex.Expression
import SandboxPolicy.Regex.Fault
import SandboxPolicy.Regex.PropertyNames
import SandboxPolicy.Text.Age
import SandboxPolicy.Text.CaseFolding
import SandboxPolicy.Text.Category
import SandboxPolicy.Text.Character
import SandboxPolicy.Text.Property
import SandboxPolicy.Text.Script
import SandboxPolicy.Text.Segmentation

/-!
The characters that a property name in a pattern stands for. Case, blanks, hyphens, underscores
and a leading `is` do not matter in names.
-/

namespace SandboxPolicy.Regex

def normalizeName (name : String) : String :=
  let text := name.toList
  let prefixed :=
    match text with
    | a :: b :: _ => (a == 'i' || a == 'I') && (b == 's' || b == 'S')
    | _ => false
  let kept := (if prefixed then text.drop 2 else text).filterMap fun c =>
    if c = ' ' || c = '_' || c = '-' || !isAscii c then none else some c.toLower
  String.ofList (if prefixed && kept == ['c'] then ['i', 's', 'c'] else kept)

inductive ValuedProperty where
  | age
  | category
  | graphemeBreak
  | script
  | scriptExtensions
  | sentenceBreak
  | wordBreak
deriving Repr, DecidableEq

def valuedProperties : List (List String × ValuedProperty) :=
  [(["age"], .age),
   (["generalcategory", "gc"], .category),
   (["graphemeclusterbreak", "gcb"], .graphemeBreak),
   (["script", "sc"], .script),
   (["scriptextensions", "scx"], .scriptExtensions),
   (["sentencebreak", "sb"], .sentenceBreak),
   (["wordbreak", "wb"], .wordBreak)]

def valuedProperty (name : String) : Option ValuedProperty :=
  (valuedProperties.find? fun entry => entry.1.contains name).map Prod.snd

def categorySet (name : String) : Option CharSet :=
  if name = "any" then some .all
  else if name = "ascii" then some (.ofRanges [(0, 127)])
  else if name = "assigned" then some (Category.charSet [.unassigned]).complement
  else (Category.ofName name).map Category.charSet

def ValuedProperty.charSet : ValuedProperty → String → Option CharSet
  | .age, value => Age.charSet value
  | .category, value => categorySet value
  | .graphemeBreak, value =>
      Segmentation.charSet Segmentation.graphemeNames Segmentation.graphemePartition value
  | .script, value => Script.charSet value
  | .scriptExtensions, value => Script.extendedSet value
  | .sentenceBreak, value =>
      Segmentation.charSet Segmentation.sentenceNames Segmentation.sentencePartition value
  | .wordBreak, value =>
      Segmentation.charSet Segmentation.wordNames Segmentation.wordPartition value

def namesNothing (name : String) : Bool :=
  name = "cs" || name = "surrogate" || Script.emptyNames.contains name

/-- A name alone: a property, a general category or a script, in this order. The short names of
three categories are also those of properties that are not binary. -/
def namedSet (name : String) : Except FaultKind CharSet :=
  let isCategory := name = "cf" || name = "sc" || name = "lc"
  if !isCategory && otherPropertyNames.contains name then .error .propertyNotFound
  else
    match (Property.ofName name).or ((categorySet name).or (Script.charSet name)) with
    | some set => .ok set
    | none => .error (if namesNothing name then .propertyValueNotFound else .propertyNotFound)

def valuedSet (name value : String) : Except FaultKind CharSet :=
  match valuedProperty name with
  | some property =>
      match property.charSet value with
      | some set => .ok set
      | none => .error .propertyValueNotFound
  | none =>
      .error (if otherPropertyNames.contains name || (Property.ofName name).isSome then
        .propertyValueNotFound else .propertyNotFound)

def propertySet : PropertyName → Except FaultKind CharSet
  | .named name => namedSet (normalizeName name)
  | .valued name value => valuedSet (normalizeName name) (normalizeName value)

def wordSet : CharSet :=
  [Category.charSet [.nonspacingMark, .spacingMark, .enclosingMark, .decimalNumber,
      .connectorPunctuation], Property.joinControl].foldl CharSet.union Property.alphabetic

def asciiWordSet : CharSet := .ofRanges [(0x30, 0x39), (0x41, 0x5a), (0x5f, 0x5f), (0x61, 0x7a)]

def digitSet : CharSet := Category.charSet [.decimalNumber]

def Shorthand.charSet (unicode : Bool) : Shorthand → CharSet
  | .digit => if unicode then digitSet else .ofRanges [(0x30, 0x39)]
  | .space => if unicode then Property.whiteSpace else .ofRanges [(0x09, 0x0d), (0x20, 0x20)]
  | .word => if unicode then wordSet else asciiWordSet

end SandboxPolicy.Regex
