import SandboxPolicy.SExpr.Token

/-!
From tokens to expressions. The open lists are a stack, so a parenthesis that is never closed is
reported at the innermost open list and one that closes nothing at its own place.
-/

namespace SandboxPolicy

structure SyntaxError where
  fault : ReadFault
  offset : Nat
  position : Position
deriving Repr, DecidableEq

def SyntaxError.render (error : SyntaxError) : String :=
  error.position.render ++ ": " ++ error.fault.message

namespace SExpr

/-- Adds tokens to the items of the innermost open list. The stack holds, for each open list, where
it began and the items before it; items are kept in reverse. -/
def assemble : List (Nat × List SExpr) → List SExpr → List Token → Except ReadError (List SExpr)
  | [], items, [] => .ok items.reverse
  | (start, _) :: _, _, [] => .error ⟨.unclosedParen, start⟩
  | stack, items, .opening start :: rest => assemble ((start, items) :: stack) [] rest
  | [], _, .closing offset :: _ => .error ⟨.unmatchedParen, offset⟩
  | (start, before) :: stack, items, .closing offset :: rest =>
      assemble stack (.list items.reverse ⟨start, offset + 1⟩ :: before) rest
  | stack, items, .atom text span :: rest => assemble stack (.atom text span :: items) rest
  | stack, items, .str text span :: rest => assemble stack (.str text span :: items) rest
  | stack, items, .regex text span :: rest => assemble stack (.regex text span :: items) rest

def ofChars (text : List Char) : Except ReadError (List SExpr) := do
  assemble [] [] (← scanTokens text)

def parse (source : String) : Except SyntaxError (List SExpr) :=
  match ofChars source.toList with
  | .ok exprs => .ok exprs
  | .error error => .error ⟨error.fault, error.offset, positionAt source error.offset⟩

end SExpr

end SandboxPolicy
