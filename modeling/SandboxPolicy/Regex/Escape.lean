import SandboxPolicy.Regex.Cursor

/-!
Single items of a pattern: characters, the dot, assertions and everything behind a backslash.
-/

namespace SandboxPolicy.Regex

inductive Primitive where
  | literal (value : Literal)
  | dot (extent : Extent)
  | assertion (kind : Assertion) (extent : Extent)
  | property (name : PropertyName) (negated : Bool) (extent : Extent)
  | shorthand (kind : Shorthand) (negated : Bool) (extent : Extent)

namespace Primitive

def extent : Primitive → Extent
  | .literal value => value.extent
  | .dot extent | .assertion _ extent | .property _ _ extent | .shorthand _ _ extent => extent

def toExpression : Primitive → Expression
  | .literal value => .literal value
  | .dot extent => .dot extent
  | .assertion kind extent => .assertion kind extent
  | .property name negated extent => .property name negated extent
  | .shorthand kind negated extent => .shorthand kind negated extent

def toClassItem : Primitive → Read ClassItem
  | .literal value => return .literal value
  | .property name negated extent => return .property name negated extent
  | .shorthand kind negated extent => return .shorthand kind negated extent
  | .dot extent | .assertion _ extent => failAt .invalidClassEscape extent

def toLiteral : Primitive → Read Literal
  | .literal value => return value
  | other => failAt .classRangeNotLiteral other.extent

end Primitive

def isMeta (c : Char) : Bool :=
  ['\\', '.', '+', '*', '?', '(', ')', '|', '[', ']', '\x7b', '\x7d', '^', '$', '#', '&', '-',
    '~'].contains c

/-- Characters that a backslash makes literal: every sign of ASCII but the angle brackets. -/
def isEscapable (c : Char) : Bool :=
  isMeta c || (isAscii c && !isDigit c && !isAsciiLetter c && c != '<' && c != '>')

def isHexDigit (c : Char) : Bool :=
  isDigit c || ('a' ≤ c && c ≤ 'f') || ('A' ≤ c && c ≤ 'F')

def hexDigitValue (c : Char) : Nat :=
  if isDigit c then c.toNat - '0'.toNat
  else if 'a' ≤ c then c.toNat - 'a'.toNat + 10
  else c.toNat - 'A'.toNat + 10

def charOfHex (digits : List Char) : Option Char :=
  let code := digits.foldl (fun value c => value * 16 + hexDigitValue c) 0
  if code < 0xd800 || (0xe000 ≤ code && code ≤ lastCode) then some (Char.ofNat code) else none

def fixedHex (first : Bool) : Nat → Read (List Char)
  | 0 => return []
  | count + 1 => do
      if !first then
        if !(← advance) then fail .unfinishedEscape (← here) (← here)
      match ← peek with
      | some c =>
          if isHexDigit c then return c :: (← fixedHex false count)
          else failAt .invalidHexDigit (← charExtent)
      | none => fail .unfinishedEscape (← here) (← here)

def untilBrace (check : Char → Read Unit) : Nat → Read (List Char)
  | 0 => return []
  | steps + 1 => do
      if ← advance then
        match ← peek with
        | some c =>
            if c = '\x7d' then return []
            else
              check c
              return c :: (← untilBrace check steps)
        | none => return []
      else return []

def requireHexDigit (c : Char) : Read Unit := do
  if !isHexDigit c then failAt .invalidHexDigit (← charExtent)

/-- A character given by its code, `digits` digits long or between braces; `start` is the place of
the backslash. -/
def readHex (start : Position) (digits : Nat) : Read Literal := do
  if !(← advance) then fail .unfinishedEscape (← here) (← here)
  if (← peek) = some '\x7b' then
    let brace ← charExtent
    let text ← untilBrace requireHexDigit (← remaining)
    if ← atEnd then fail .unfinishedEscape brace.start (← here)
    let stop ← here
    let _ ← advance
    if text.isEmpty then fail .emptyHex brace.start (← here)
    match charOfHex text with
    | none => fail .invalidHex brace.stop stop
    | some c => return ⟨c, false, ⟨start, ← here⟩⟩
  else
    let first ← here
    let text ← fixedHex true digits
    let _ ← advance
    let stop ← here
    match charOfHex text with
    | none => fail .invalidHex first stop
    | some c => return ⟨c, digits = 2, ⟨start, stop⟩⟩

def splitUnequal? : List Char → Option (List Char × List Char)
  | '!' :: '=' :: rest => some ([], rest)
  | c :: rest => (splitUnequal? rest).map fun parts => (c :: parts.1, parts.2)
  | [] => none

/-- Splits the text between the braces of a property into a name and a value, and tells whether the
value is one that the property must not have. -/
def propertyName (text : List Char) : PropertyName × Bool :=
  let valued (parts : List Char × List Char) : PropertyName :=
    .valued (String.ofList parts.1) (String.ofList parts.2)
  match splitUnequal? text with
  | some parts => (valued parts, true)
  | none =>
      match (splitFirst? ':' text).or (splitFirst? '=' text) with
      | some parts => (valued parts, false)
      | none => (.named (String.ofList text), false)

def readProperty (start : Position) (negated : Bool) : Read Primitive := do
  if !(← advance) then fail .unfinishedEscape (← here) (← here)
  match ← peek with
  | some '\x7b' =>
      let text ← untilBrace (fun _ => pure ()) (← remaining)
      if ← atEnd then fail .unfinishedEscape (← here) (← here)
      bump
      let (name, unequal) := propertyName text
      return .property name (negated != unequal) ⟨start, ← here⟩
  | some c =>
      if c = '\\' then failAt .invalidProperty (← charExtent)
      let _ ← advance
      return .property (.named c.toString) negated ⟨start, ← here⟩
  | none => fail .unfinishedEscape (← here) (← here)

def wordBoundaryNamed (name : String) : Option Assertion :=
  if name = "start" then some .wordStart
  else if name = "end" then some .wordEnd
  else if name = "start-half" then some .wordStartHalf
  else if name = "end-half" then some .wordEndHalf
  else none

/-- A name between braces after a word boundary, with the brace next. What cannot be a name is left
to be read as a repetition. -/
def readBoundaryName (start : Position) : Read (Option Assertion) := do
  let before ← get
  let brace ← here
  if !(← advance) then fail .unfinishedWordBoundary start (← here)
  let isNameChar := fun c : Char => isAsciiLetter c || c == '-'
  let contents ← here
  if !(← peek).any isNameChar then
    set before
    return none
  let name ← collect isNameChar (← remaining)
  if (← peek) ≠ some '\x7d' then fail .unclosedWordBoundary brace (← here)
  let stop ← here
  bump
  match wordBoundaryNamed (String.ofList name) with
  | some kind => return some kind
  | none => fail .unrecognizedWordBoundary contents stop

def controlEscape (c : Char) : Option Char :=
  if c = 'a' then some '\x07'
  else if c = 'f' then some '\x0c'
  else if c = 't' then some '\t'
  else if c = 'n' then some '\n'
  else if c = 'r' then some '\r'
  else if c = 'v' then some '\x0b'
  else none

def simpleEscape (start : Position) (c : Char) : Read Primitive := do
  let extent : Extent := ⟨start, ← here⟩
  if isEscapable c then return .literal ⟨c, false, extent⟩
  if let some control := controlEscape c then return .literal ⟨control, false, extent⟩
  match c with
  | 'A' => return .assertion .textStart extent
  | 'z' => return .assertion .textEnd extent
  | 'B' => return .assertion .notWordBoundary extent
  | '<' => return .assertion .wordStart extent
  | '>' => return .assertion .wordEnd extent
  | 'b' =>
      if (← peek) = some '\x7b' then
        match ← readBoundaryName start with
        | some kind => return .assertion kind ⟨start, ← here⟩
        | none => return .assertion .wordBoundary extent
      else return .assertion .wordBoundary extent
  | _ => failAt .unrecognizedEscape extent

def readEscape : Read Primitive := do
  let start ← here
  bump
  match ← peek with
  | none => fail .unfinishedEscape start (← here)
  | some c =>
      if isDigit c then fail .backreference start (← charExtent).stop
      match c with
      | 'x' => return .literal (← readHex start 2)
      | 'u' => return .literal (← readHex start 4)
      | 'U' => return .literal (← readHex start 8)
      | 'p' => readProperty start false
      | 'P' => readProperty start true
      | _ =>
          bump
          let extent : Extent := ⟨start, ← here⟩
          match c with
          | 'd' => return .shorthand .digit false extent
          | 's' => return .shorthand .space false extent
          | 'w' => return .shorthand .word false extent
          | 'D' => return .shorthand .digit true extent
          | 'S' => return .shorthand .space true extent
          | 'W' => return .shorthand .word true extent
          | _ => simpleEscape start c

def readVerbatim (c : Char) : Read Literal := do
  let extent ← charExtent
  bump
  return ⟨c, false, extent⟩

def readPrimitive (c : Char) : Read Primitive := do
  match c with
  | '\\' => readEscape
  | '.' => return .dot (← readVerbatim c).extent
  | '^' => return .assertion .lineStart (← readVerbatim c).extent
  | '$' => return .assertion .lineEnd (← readVerbatim c).extent
  | _ => return .literal (← readVerbatim c)

end SandboxPolicy.Regex
