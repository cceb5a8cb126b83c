import SandboxPolicy.Text.CharSet
import SandboxPolicy.Text.Position

/-!
The written form of a regular expression. Every node keeps the extent of its text, because a
fault that shows only after reading still points at it.
-/

namespace SandboxPolicy.Regex

structure Extent where
  start : Position
  stop : Position
deriving Repr, DecidableEq, Inhabited

inductive Flag where
  | ignoreCase
  | multiLine
  | dotMatchesNewline
  | swapGreed
  | unicode
  | carriageReturns
  | ignoreBlanks
deriving Repr, DecidableEq

abbrev FlagChanges := List (Flag × Bool)

def FlagChanges.state (changes : FlagChanges) (flag : Flag) : Option Bool :=
  (changes.find? fun change => change.1 = flag).map Prod.snd

structure Literal where
  char : Char
  byteEscape : Bool
  extent : Extent
deriving Repr, Inhabited

inductive Shorthand where
  | digit
  | space
  | word
deriving Repr, DecidableEq

inductive PropertyName where
  | named (name : String)
  | valued (name : String) (value : String)
deriving Repr

inductive SetOperator where
  | intersection
  | difference
  | symmetricDifference
deriving Repr, DecidableEq

inductive ClassItem where
  | empty (extent : Extent)
  | literal (literal : Literal)
  | range (first last : Literal) (extent : Extent)
  | posix (members : List (Nat × Nat)) (negated : Bool) (extent : Extent)
  | property (name : PropertyName) (negated : Bool) (extent : Extent)
  | shorthand (kind : Shorthand) (negated : Bool) (extent : Extent)
  | bracketed (inner : ClassItem) (negated : Bool) (extent : Extent)
  | union (items : List ClassItem) (extent : Extent)
  | operation (operator : SetOperator) (left right : ClassItem) (extent : Extent)
deriving Repr, Inhabited

inductive Assertion where
  | lineStart
  | lineEnd
  | textStart
  | textEnd
  | wordBoundary
  | notWordBoundary
  | wordStart
  | wordEnd
  | wordStartHalf
  | wordEndHalf
deriving Repr, DecidableEq

inductive Expression where
  | empty (extent : Extent)
  | flags (changes : FlagChanges) (extent : Extent)
  | literal (literal : Literal)
  | dot (extent : Extent)
  | assertion (kind : Assertion) (extent : Extent)
  | property (name : PropertyName) (negated : Bool) (extent : Extent)
  | shorthand (kind : Shorthand) (negated : Bool) (extent : Extent)
  | bracketed (inner : ClassItem) (negated : Bool) (extent : Extent)
  | repetition (item : Expression) (least : Nat) (most : Option Nat) (greedy : Bool)
      (extent : Extent)
  | group (changes : FlagChanges) (captures : Bool) (body : Expression) (extent : Extent)
  | alternation (branches : List Expression) (extent : Extent)
  | sequence (items : List Expression) (extent : Extent)
deriving Repr, Inhabited

def ClassItem.extent : ClassItem → Extent
  | .literal written => written.extent
  | .empty extent | .range _ _ extent | .posix _ _ extent | .property _ _ extent
  | .shorthand _ _ extent | .bracketed _ _ extent | .union _ extent
  | .operation _ _ _ extent => extent

def Expression.extent : Expression → Extent
  | .literal written => written.extent
  | .empty extent | .flags _ extent | .dot extent | .assertion _ extent | .property _ _ extent
  | .shorthand _ _ extent | .bracketed _ _ extent | .repetition _ _ _ _ extent
  | .group _ _ _ extent | .alternation _ extent | .sequence _ extent => extent

mutual

def ClassItem.tooDeep (limit depth : Nat) : ClassItem → Option Extent
  | .bracketed inner _ extent =>
      if limit ≤ depth then some extent else inner.tooDeep limit (depth + 1)
  | .union items extent =>
      if limit ≤ depth then some extent else ClassItem.anyTooDeep limit (depth + 1) items
  | .operation _ left right extent =>
      if limit ≤ depth then some extent
      else (left.tooDeep limit (depth + 1)).or (right.tooDeep limit (depth + 1))
  | _ => none

def ClassItem.anyTooDeep (limit depth : Nat) : List ClassItem → Option Extent
  | [] => none
  | item :: rest => (item.tooDeep limit depth).or (anyTooDeep limit depth rest)

end

mutual

def Expression.tooDeep (limit depth : Nat) : Expression → Option Extent
  | .bracketed inner _ extent =>
      if limit ≤ depth then some extent else inner.tooDeep limit (depth + 1)
  | .repetition item _ _ _ extent =>
      if limit ≤ depth then some extent else item.tooDeep limit (depth + 1)
  | .group _ _ body extent =>
      if limit ≤ depth then some extent else body.tooDeep limit (depth + 1)
  | .alternation branches extent =>
      if limit ≤ depth then some extent else Expression.anyTooDeep limit (depth + 1) branches
  | .sequence items extent =>
      if limit ≤ depth then some extent else Expression.anyTooDeep limit (depth + 1) items
  | _ => none

def Expression.anyTooDeep (limit depth : Nat) : List Expression → Option Extent
  | [] => none
  | item :: rest => (item.tooDeep limit depth).or (anyTooDeep limit depth rest)

end

end SandboxPolicy.Regex
