import SandboxPolicy.Text.Quoted

/-!
S-expressions with the byte ranges they were read from, and their printed form.
-/

namespace SandboxPolicy

structure Span where
  start : Nat
  stop : Nat
deriving Repr, DecidableEq, Inhabited

namespace Span

def zero : Span := ⟨0, 0⟩

end Span

/-- An atom, a string, a regular expression literal or a list of expressions. -/
inductive SExpr where
  | atom (text : String) (span : Span)
  | str (text : String) (span : Span)
  | regex (text : String) (span : Span)
  | list (items : List SExpr) (span : Span)
deriving Repr, Inhabited

namespace SExpr

def span : SExpr → Span
  | .atom _ span | .str _ span | .regex _ span | .list _ span => span

def text? : SExpr → Option String
  | .atom text _ | .str text _ | .regex text _ => some text
  | .list _ _ => none

def head? : SExpr → Option String
  | .list (.atom text _ :: _) _ => some text
  | _ => none

mutual

/-- The printed form: strings are quoted, a regular expression stands verbatim between its marks. -/
def print : SExpr → List Char
  | .atom text _ => text.toList
  | .str text _ => quotedChars text.toList
  | .regex text _ => '#' :: '"' :: text.toList ++ ['"']
  | .list items _ => '(' :: printItems items ++ [')']

def printItems : List SExpr → List Char
  | [] => []
  | [item] => item.print
  | item :: next :: rest => item.print ++ ' ' :: printItems (next :: rest)

end

def render (expr : SExpr) : String := String.ofList expr.print

mutual

def preorder (depth : Nat) : SExpr → List (Nat × SExpr)
  | .list items span => (depth, .list items span) :: preorderItems (depth + 1) items
  | leaf => [(depth, leaf)]

def preorderItems (depth : Nat) : List SExpr → List (Nat × SExpr)
  | [] => []
  | item :: rest => preorder depth item ++ preorderItems depth rest

end

end SExpr

end SandboxPolicy
