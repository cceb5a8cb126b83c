import SandboxPolicy.Bytecode.Error
import SandboxPolicy.Bytecode.Word
import SandboxPolicy.Text.Utf8

/-!
The data at the end of a compiled profile: blobs, each a length of one word and then that many
bytes. A blob is named by its place, which counts units of eight bytes.
-/

namespace SandboxPolicy

structure DataArea where
  bytes : List UInt8
deriving Repr, DecidableEq, Inhabited

namespace DataArea

def position (place : UInt16) : Nat := 8 * place.toNat

def blob (area : DataArea) (place : UInt16) : Except BytecodeError (List UInt8) :=
  let start := position place
  match area.bytes.drop start with
  | low :: high :: rest =>
      let length := (wordOf low high).toNat
      let bytes := rest.take length
      if bytes.length = length then .ok bytes
      else .error (.offsetTooLarge start area.bytes.length)
  | _ => .error (.offsetTooLarge start area.bytes.length)

def text (area : DataArea) (place : UInt16) : Except BytecodeError String := do
  match utf8Text? (← area.blob place) with
  | some text => return text
  | none => throw (.invalidText (position place))

def units (length : Nat) : Nat := roundUp (2 + length) / 8

def encodeBlob (bytes : List UInt8) : List UInt8 :=
  padded (wordBytes (UInt16.ofNat bytes.length) ++ bytes)

end DataArea

end SandboxPolicy
