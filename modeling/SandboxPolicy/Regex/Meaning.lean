import SandboxPolicy.Regex.Parser
import SandboxPolicy.Regex.Pattern
import SandboxPolicy.Regex.Property

/-!
The meaning of an expression: flags are applied, every class becomes one set, and what has no
meaning over characters is refused.
-/

namespace SandboxPolicy.Regex

structure Flags where
  ignoreCase : Bool
  multiLine : Bool
  dotMatchesNewline : Bool
  swapGreed : Bool
  unicode : Bool
  carriageReturns : Bool

namespace Flags

def initial : Flags := ⟨false, false, false, false, true, false⟩

def change (flags : Flags) : FlagChanges → Flags
  | [] => flags
  | (flag, on) :: rest =>
      let changed :=
        match flag with
        | .ignoreCase => { flags with ignoreCase := on }
        | .multiLine => { flags with multiLine := on }
        | .dotMatchesNewline => { flags with dotMatchesNewline := on }
        | .swapGreed => { flags with swapGreed := on }
        | .unicode => { flags with unicode := on }
        | .carriageReturns => { flags with carriageReturns := on }
        | .ignoreBlanks => flags
      changed.change rest

end Flags

def foldCase (flags : Flags) (set : CharSet) : CharSet :=
  if flags.ignoreCase then
    if flags.unicode then CaseFolding.close set else CaseFolding.closeAscii set
  else set

/-- Closes under case and then negates. Without Unicode a negated class would hold bytes that are
no characters. -/
def foldAndNegate (flags : Flags) (negated : Bool) (extent : Extent) (set : CharSet) :
    Except Fault CharSet :=
  let folded := foldCase flags set
  if !negated then .ok folded
  else if flags.unicode then .ok folded.complement
  else .error ⟨.invalidUtf8, extent, none⟩

def literalChar (flags : Flags) (literal : Literal) : Except Fault Char :=
  if !flags.unicode && literal.byteEscape && !isAscii literal.char then
    .error ⟨.invalidUtf8, literal.extent, none⟩
  else .ok literal.char

def classChar (flags : Flags) (literal : Literal) : Except Fault Char := do
  let c ← literalChar flags literal
  if !flags.unicode && !isAscii c then .error ⟨.unicodeNotAllowed, literal.extent, none⟩ else .ok c

def propertyClass (flags : Flags) (name : PropertyName) (negated : Bool) (extent : Extent) :
    Except Fault CharSet :=
  if !flags.unicode then .error ⟨.unicodeNotAllowed, extent, none⟩
  else
    match propertySet name with
    | .ok set => foldAndNegate flags negated extent set
    | .error kind => .error ⟨kind, extent, none⟩

def shorthandClass (flags : Flags) (kind : Shorthand) (negated : Bool) (extent : Extent) :
    Except Fault CharSet :=
  let set := kind.charSet flags.unicode
  if !negated then .ok set
  else if flags.unicode then .ok set.complement
  else .error ⟨.invalidUtf8, extent, none⟩

def SetOperator.apply : SetOperator → CharSet → CharSet → CharSet
  | .intersection, left, right => left.intersection right
  | .difference, left, right => left.difference right
  | .symmetricDifference, left, right => left.symmetricDifference right

mutual

def ClassItem.charSet (flags : Flags) : ClassItem → Except Fault CharSet
  | .empty _ => .ok .empty
  | .literal written => do return .ofChar (← classChar flags written)
  | .range first last _ => do
      let low ← classChar flags first
      let high ← classChar flags last
      return ⟨#[(low.toNat, high.toNat)]⟩
  | .posix members negated extent => foldAndNegate flags negated extent (.ofRanges members)
  | .property name negated extent => propertyClass flags name negated extent
  | .shorthand kind negated extent => shorthandClass flags kind negated extent
  | .bracketed inner negated extent => do
      foldAndNegate flags negated extent (← inner.charSet flags)
  | .union items _ => ClassItem.unionSet flags items
  | .operation operator left right _ => do
      let left ← left.charSet flags
      let right ← right.charSet flags
      return operator.apply (foldCase flags left) (foldCase flags right)

def ClassItem.unionSet (flags : Flags) : List ClassItem → Except Fault CharSet
  | [] => .ok .empty
  | item :: rest => do
      let set ← item.charSet flags
      return set.union (← ClassItem.unionSet flags rest)

end

def Assertion.look (flags : Flags) : Assertion → Look
  | .lineStart => if flags.multiLine then .lineStart flags.carriageReturns else .textStart
  | .lineEnd => if flags.multiLine then .lineEnd flags.carriageReturns else .textEnd
  | .textStart => .textStart
  | .textEnd => .textEnd
  | .wordBoundary => .wordBoundary flags.unicode
  | .notWordBoundary => .notWordBoundary flags.unicode
  | .wordStart => .wordStart flags.unicode
  | .wordEnd => .wordEnd flags.unicode
  | .wordStartHalf => .wordStartHalf flags.unicode
  | .wordEndHalf => .wordEndHalf flags.unicode

/-- The dot: every character, but by default no line end. -/
def dotSet (flags : Flags) : CharSet :=
  if flags.dotMatchesNewline then .all
  else if flags.carriageReturns then (CharSet.ofRanges [(0x0a, 0x0a), (0x0d, 0x0d)]).complement
  else (CharSet.ofChar '\n').complement

mutual

def Expression.pattern (flags : Flags) : Expression → Except Fault (Pattern × Flags)
  | .empty _ => .ok (.empty, flags)
  | .flags changes _ => .ok (.empty, flags.change changes)
  | .literal written => do
      let c ← literalChar flags written
      return (.ofSet (foldCase flags (.ofChar c)) !flags.unicode, flags)
  | .dot extent =>
      if flags.unicode then .ok (.ofSet (dotSet flags) false, flags)
      else .error ⟨.invalidUtf8, extent, none⟩
  | .assertion kind _ => .ok (.look (kind.look flags), flags)
  | .property name negated extent => do
      return (.ofSet (← propertyClass flags name negated extent) false, flags)
  | .shorthand kind negated extent => do
      return (.ofSet (← shorthandClass flags kind negated extent) !flags.unicode, flags)
  | .bracketed inner negated extent => do
      let set ← foldAndNegate flags negated extent (← inner.charSet flags)
      return (.ofSet set !flags.unicode, flags)
  | .repetition item least most greedy _ => do
      let (inner, after) ← item.pattern flags
      return (.repetition inner least most (greedy != after.swapGreed), after)
  | .group changes captures body _ => do
      let (inner, _) ← body.pattern (flags.change changes)
      return (if captures then .captured inner else inner, flags)
  | .alternation branches _ => do
      let (inner, after) ← Expression.patterns flags branches
      return (.choice inner, after)
  | .sequence items _ => do
      let (inner, after) ← Expression.patterns flags items
      return (.concat inner, after)

def Expression.patterns (flags : Flags) : List Expression → Except Fault (List Pattern × Flags)
  | [] => .ok ([], flags)
  | item :: rest => do
      let (first, between) ← item.pattern flags
      let (others, after) ← Expression.patterns between rest
      return (first :: others, after)

end

end SandboxPolicy.Regex
