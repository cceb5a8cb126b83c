import SandboxPolicy.Regex.Expression
import SandboxPolicy.Text.Split

/-!
Faults of regular expressions and how they are shown: the pattern line by line, with carets under
the places at fault.
-/

namespace SandboxPolicy.Regex

inductive FaultKind where
  | invalidClassEscape
  | invalidClassRange
  | classRangeNotLiteral
  | unclosedClass
  | emptyDecimal
  | invalidDecimal
  | emptyHex
  | invalidHex
  | invalidHexDigit
  | unfinishedEscape
  | unrecognizedEscape
  | danglingNegation
  | duplicateFlag
  | repeatedNegation
  | unfinishedFlags
  | unrecognizedFlag
  | duplicateName
  | emptyName
  | invalidName
  | unclosedName
  | unclosedGroup
  | unopenedGroup
  | tooDeeplyNested (limit : Nat)
  | invalidCount
  | emptyCount
  | unclosedCount
  | nothingToRepeat
  | unclosedWordBoundary
  | unrecognizedWordBoundary
  | unfinishedWordBoundary
  | invalidProperty
  | backreference
  | lookAround
  | unicodeNotAllowed
  | invalidUtf8
  | propertyNotFound
  | propertyValueNotFound
deriving Repr, DecidableEq

def FaultKind.message : FaultKind → String
  | .invalidClassEscape => "invalid escape sequence found in character class"
  | .invalidClassRange => "invalid character class range, the start must be <= the end"
  | .classRangeNotLiteral => "invalid range boundary, must be a literal"
  | .unclosedClass => "unclosed character class"
  | .emptyDecimal => "decimal literal empty"
  | .invalidDecimal => "decimal literal invalid"
  | .emptyHex => "hexadecimal literal empty"
  | .invalidHex => "hexadecimal literal is not a Unicode scalar value"
  | .invalidHexDigit => "invalid hexadecimal digit"
  | .unfinishedEscape => "incomplete escape sequence, reached end of pattern prematurely"
  | .unrecognizedEscape => "unrecognized escape sequence"
  | .danglingNegation => "dangling flag negation operator"
  | .duplicateFlag => "duplicate flag"
  | .repeatedNegation => "flag negation operator repeated"
  | .unfinishedFlags => "expected flag but got end of regex"
  | .unrecognizedFlag => "unrecognized flag"
  | .duplicateName => "duplicate capture group name"
  | .emptyName => "empty capture group name"
  | .invalidName => "invalid capture group character"
  | .unclosedName => "unclosed capture group name"
  | .unclosedGroup => "unclosed group"
  | .unopenedGroup => "unopened group"
  | .tooDeeplyNested limit =>
      s!"exceed the maximum number of nested parentheses/brackets ({limit})"
  | .invalidCount => "invalid repetition count range, the start must be <= the end"
  | .emptyCount => "repetition quantifier expects a valid decimal"
  | .unclosedCount => "unclosed counted repetition"
  | .nothingToRepeat => "repetition operator missing expression"
  | .unclosedWordBoundary =>
      "special word boundary assertion is either unclosed or contains an invalid character"
  | .unrecognizedWordBoundary =>
      "unrecognized special word boundary assertion, valid choices are: start, end, " ++
        "start-half or end-half"
  | .unfinishedWordBoundary =>
      "found either the beginning of a special word boundary or a bounded repetition on a \\b " ++
        "with an opening brace, but no closing brace"
  | .invalidProperty => "invalid Unicode character class"
  | .backreference => "backreferences are not supported"
  | .lookAround => "look-around, including look-ahead and look-behind, is not supported"
  | .unicodeNotAllowed => "Unicode not allowed here"
  | .invalidUtf8 => "pattern can match invalid UTF-8"
  | .propertyNotFound => "Unicode property not found"
  | .propertyValueNotFound => "Unicode property value not found"

structure Fault where
  kind : FaultKind
  extent : Extent
  other : Option Extent
deriving Repr, DecidableEq

namespace Fault

def precedes (left right : Extent) : Bool :=
  if left.start = right.start then
    left.stop.line < right.stop.line ||
      (left.stop.line == right.stop.line && left.stop.column ≤ right.stop.column)
  else
    left.start.line < right.start.line ||
      (left.start.line == right.start.line && left.start.column ≤ right.start.column)

def extents (fault : Fault) : List Extent :=
  match fault.other with
  | none => [fault.extent]
  | some other =>
      if precedes other fault.extent then [other, fault.extent] else [fault.extent, other]

def carets (column : Nat) : List Extent → List Char
  | [] => []
  | extent :: rest =>
      let blanks := extent.start.column - 1 - column
      let width := max 1 (extent.stop.column - extent.start.column)
      List.replicate blanks ' ' ++ List.replicate width '^' ++
        carets (column + blanks + width) rest

def showLine (fault : Fault) (numberWidth : Nat) (number : Nat) (line : List Char) : List Char :=
  let inLine := fault.extents.filter fun extent =>
    extent.start.line == number && extent.stop.line == number
  let label := (toString number).toList
  let margin :=
    if numberWidth = 0 then "    ".toList else label.leftpad numberWidth ' ' ++ [':', ' ']
  let padding := if numberWidth = 0 then 4 else numberWidth + 2
  let marks :=
    if inLine.isEmpty then [] else List.replicate padding ' ' ++ carets 0 inLine ++ ['\n']
  margin ++ line ++ '\n' :: marks

def showLines (fault : Fault) (numberWidth : Nat) : Nat → List (List Char) → List Char
  | _, [] => []
  | number, line :: rest =>
      showLine fault numberWidth number line ++ showLines fault numberWidth (number + 1) rest

def spread (extent : Extent) : String :=
  s!"on line {extent.start.line} (column {extent.start.column}) through line " ++
    s!"{extent.stop.line} (column {extent.stop.column - 1})"

/-- The report of a fault. A pattern of several lines stands between dividers with its lines
numbered, and extents over several lines are named below it. -/
def render (fault : Fault) (pattern : String) : String :=
  let lines := linesOf pattern.toList
  let count := lines.length + if pattern.toList.getLast? = some '\n' then 1 else 0
  let numberWidth := if count ≤ 1 then 0 else (toString count).length
  let shown := String.ofList (showLines fault numberWidth 1 lines)
  let reason := "error: " ++ fault.kind.message
  if pattern.toList.contains '\n' then
    let divider := String.ofList (List.replicate 79 '~') ++ "\n"
    let wide := fault.extents.filter fun extent => extent.start.line != extent.stop.line
    let notes := if wide.isEmpty then "" else "\n".intercalate (wide.map spread) ++ "\n"
    "regex parse error:\n" ++ divider ++ shown ++ divider ++ notes ++ reason
  else "regex parse error:\n" ++ shown ++ reason

end Fault

end SandboxPolicy.Regex
