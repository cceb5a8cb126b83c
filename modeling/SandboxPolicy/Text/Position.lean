/-!
Lines and columns of byte offsets. Columns count characters, offsets count UTF-8 bytes, and only a
newline ends a line.
-/

namespace SandboxPolicy

structure Position where
  line : Nat
  column : Nat
deriving Repr, DecidableEq, Inhabited

namespace Position

def start : Position := ⟨1, 1⟩

def after (position : Position) (c : Char) : Position :=
  if c = '\n' then ⟨position.line + 1, 1⟩ else ⟨position.line, position.column + 1⟩

def render (position : Position) : String := s!"{position.line}:{position.column}"

end Position

def charsBefore : Nat → List Char → List Char
  | 0, _ => []
  | _, [] => []
  | offset + 1, c :: rest => c :: charsBefore (offset + 1 - c.utf8Size) rest

def positionAt (source : String) (offset : Nat) : Position :=
  (charsBefore offset source.toList).foldl Position.after .start

end SandboxPolicy
