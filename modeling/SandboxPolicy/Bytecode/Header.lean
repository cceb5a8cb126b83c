import SandboxPolicy.Bytecode.Reader
import SandboxPolicy.Json.Basic

/-!
The header of a compiled profile: what kind it is, and how many entries each table has.
-/

namespace SandboxPolicy

inductive ProfileKind where
  | single
  | collection
deriving Repr, DecidableEq, Inhabited

namespace ProfileKind

def flags : ProfileKind → UInt16
  | .single => 0
  | .collection => 0x8000

def ofFlags? (flags : UInt16) : Option ProfileKind :=
  if flags = 0 then some .single else if flags = 0x8000 then some .collection else none

def tag : ProfileKind → Nat
  | .single => 0
  | .collection => 1

def name : ProfileKind → String
  | .single => "single"
  | .collection => "collection"

end ProfileKind

/-- The counts of the tables. The count of profiles means something in a collection only. -/
structure Header where
  kind : ProfileKind
  nodeCount : UInt8
  blockCount : UInt8
  operationCount : UInt8
  variableCount : UInt8
  variableStateCount : UInt8
  profileCount : UInt16
  regexCount : UInt16
  entitlementCount : UInt16
  instructionCount : UInt16
deriving Repr, DecidableEq, Inhabited

namespace Header

/-- The whole header is read before its flags are judged. -/
def decoder : Decoder Header := do
  let flags ← Decoder.word
  let nodeCount ← Decoder.byte
  let blockCount ← Decoder.byte
  let operationCount ← Decoder.byte
  let variableCount ← Decoder.byte
  let variableStateCount ← Decoder.byte
  let _reserved ← Decoder.byte
  let profileCount ← Decoder.word
  let regexCount ← Decoder.word
  let entitlementCount ← Decoder.word
  let instructionCount ← Decoder.word
  match ProfileKind.ofFlags? flags with
  | none => throw (.unknownFlag flags)
  | some kind =>
      return { kind, nodeCount, blockCount, operationCount, variableCount, variableStateCount,
               profileCount, regexCount, entitlementCount, instructionCount }

def encode (header : Header) : List UInt8 :=
  wordBytes header.kind.flags ++
    [header.nodeCount, header.blockCount, header.operationCount, header.variableCount,
     header.variableStateCount, 0] ++
    wordBytes header.profileCount ++ wordBytes header.regexCount ++
    wordBytes header.entitlementCount ++ wordBytes header.instructionCount

def recordCount (header : Header) : Nat :=
  match header.kind with
  | .single => 1
  | .collection => header.profileCount.toNat

def toJson (header : Header) : Json :=
  .object
    [("block_count", .ofNat header.blockCount.toNat),
     ("entitlement_count", .ofNat header.entitlementCount.toNat),
     ("instruction_count", .ofNat header.instructionCount.toNat),
     ("kind", .str header.kind.name),
     ("node_count", .ofNat header.nodeCount.toNat),
     ("operation_count", .ofNat header.operationCount.toNat),
     ("profile_count", .ofNat header.profileCount.toNat),
     ("regex_count", .ofNat header.regexCount.toNat),
     ("variable_count", .ofNat header.variableCount.toNat),
     ("variable_state_count", .ofNat header.variableStateCount.toNat)]

end Header

end SandboxPolicy
