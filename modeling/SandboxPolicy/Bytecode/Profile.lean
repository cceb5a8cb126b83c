import SandboxPolicy.Bytecode.Header

/-!
Profile records: for each operation the node where a decision starts. In a collection each record
also carries a name and a mask of system calls.
-/

namespace SandboxPolicy

structure ProfileRecord where
  index : Nat
  nameOffset : Option UInt16
  syscallMask : UInt16
  offset : Nat
  operations : List UInt16
deriving Repr, DecidableEq, Inhabited

namespace ProfileRecord

def length (kind : ProfileKind) (operationCount : Nat) : Nat :=
  match kind with
  | .single => 2 * operationCount
  | .collection => 6 + 2 * operationCount

/-- The record whose words are given; the third word of a record with a name is reserved. -/
def ofWords (kind : ProfileKind) (index offset : Nat) (words : List UInt16) : ProfileRecord :=
  match kind, words with
  | .collection, name :: mask :: _ :: operations => ⟨index, some name, mask, offset, operations⟩
  | _, operations => ⟨index, none, 0, offset, operations⟩

def decoder (kind : ProfileKind) (operationCount index : Nat) : Decoder ProfileRecord := do
  let offset ← Decoder.position
  let bytes ← Decoder.take (length kind operationCount)
  return ofWords kind index offset (wordsOf bytes)

def decoderFrom (kind : ProfileKind) (operationCount index : Nat) :
    Nat → Decoder (List ProfileRecord)
  | 0 => return []
  | count + 1 => do
      let first ← decoder kind operationCount index
      return first :: (← decoderFrom kind operationCount (index + 1) count)

def preamble (record : ProfileRecord) : List UInt16 :=
  match record.nameOffset with
  | none => []
  | some name => [name, record.syscallMask, 0]

def encode (record : ProfileRecord) : List UInt8 :=
  (record.preamble ++ record.operations).flatMap wordBytes

end ProfileRecord

end SandboxPolicy
