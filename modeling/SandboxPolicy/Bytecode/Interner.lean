import Std.Data.HashMap

/-!
Values that are kept once. Each has a place, and the places follow each other in the order in
which the values were first met.
-/

namespace SandboxPolicy

/-- The values in order, where each is, and the place after the last. -/
structure Interner (α : Type) [BEq α] [Hashable α] where
  entries : Array α
  places : Std.HashMap α Nat
  next : Nat

namespace Interner

variable {α : Type} [BEq α] [Hashable α]

def empty : Interner α := ⟨#[], ∅, 0⟩

def find? (interner : Interner α) (value : α) : Option Nat := interner.places[value]?

def add (interner : Interner α) (value : α) (width : Nat) : Interner α where
  entries := interner.entries.push value
  places := interner.places.insert value interner.next
  next := interner.next + width

end Interner

end SandboxPolicy
