import SandboxPolicy.Bytecode.Error
import SandboxPolicy.Bytecode.Word

/-!
Reading bytes from front to back. A part that is not wholly there leaves the reader in front of
it, and a sequence of parts keeps those that were read before the first that is missing.
-/

namespace SandboxPolicy

/-- A place in a sequence of bytes: how many lie before it, those after it, and how many in all. -/
structure ByteReader where
  position : Nat
  rest : List UInt8
  length : Nat
deriving Repr, DecidableEq, Inhabited

/-- A way to read something; a failure shows how far it came. -/
abbrev Decoder := EStateM BytecodeError ByteReader

namespace ByteReader

def ofBytes (bytes : List UInt8) : ByteReader := ⟨0, bytes, bytes.length⟩

def remaining (reader : ByteReader) : Nat := reader.length - reader.position

end ByteReader

namespace Decoder

def position : Decoder Nat := return (← get).position

def take (count : Nat) : Decoder (List UInt8) := fun reader =>
  if reader.position + count ≤ reader.length then
    .ok (reader.rest.take count)
      { reader with position := reader.position + count, rest := reader.rest.drop count }
  else .error (.tooSmall count reader.position reader.length) reader

def byte : Decoder UInt8 := fun reader =>
  match reader.rest with
  | value :: rest => .ok value { reader with position := reader.position + 1, rest }
  | [] => .error (.tooSmall 1 reader.position reader.length) reader

def word : Decoder UInt16 := fun reader =>
  match reader.rest with
  | low :: high :: rest =>
      .ok (wordOf low high) { reader with position := reader.position + 2, rest }
  | _ => .error (.tooSmall 2 reader.position reader.length) reader

def times {α : Type} (decoder : Decoder α) : Nat → Decoder (List α)
  | 0 => return []
  | count + 1 => do
      let first ← decoder
      return first :: (← times decoder count)

def words (count : Nat) : Decoder (List UInt16) := times word count

def records (count length : Nat) : Decoder (List (Nat × List UInt8)) :=
  times (do return (← position, ← take length)) count

def align (unit : Nat) : Decoder Unit := do
  let excess := (← position) % unit
  if excess ≠ 0 then discard (take (unit - excess))

end Decoder

end SandboxPolicy
