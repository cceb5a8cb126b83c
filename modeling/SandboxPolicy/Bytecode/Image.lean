import SandboxPolicy.Bytecode.Data
import SandboxPolicy.Bytecode.Node
import SandboxPolicy.Bytecode.Profile

/-!
The parts of a compiled profile, in the order in which they are stored: the header, five tables of
places in the data, the profile records, zeros up to a multiple of eight, the nodes, blocks of
unknown meaning, and the data.
-/

namespace SandboxPolicy

/-- A compiled profile in parts. The texts of two of its tables are read in advance. -/
structure Image where
  header : Header
  regexes : List UInt16
  variablePlaces : List UInt16
  variableNames : List String
  variableStates : List UInt16
  entitlementPlaces : List UInt16
  entitlements : List String
  instructions : List UInt16
  profiles : List ProfileRecord
  nodes : List Node
  nodesOffset : Nat
  blocks : List (List UInt8)
  blocksOffset : Nat
  data : DataArea
  dataOffset : Nat
deriving Repr, DecidableEq, Inhabited

namespace Image

def nodeLength : Nat := 8

def blockLength : Nat := 0x800

def decoder : Decoder Image := do
  let header ← Header.decoder
  let regexes ← Decoder.words header.regexCount.toNat
  let variablePlaces ← Decoder.words header.variableCount.toNat
  let variableStates ← Decoder.words header.variableStateCount.toNat
  let entitlementPlaces ← Decoder.words header.entitlementCount.toNat
  let instructions ← Decoder.words header.instructionCount.toNat
  let profiles ←
    ProfileRecord.decoderFrom header.kind header.operationCount.toNat 0 header.recordCount
  Decoder.align 8
  let nodesOffset ← Decoder.position
  let nodes ← Decoder.records header.nodeCount.toNat nodeLength
  let blocksOffset ← Decoder.position
  let blocks ← Decoder.records header.blockCount.toNat blockLength
  let dataOffset ← Decoder.position
  let data := DataArea.mk (← get).rest
  let variableNames ← liftExcept (variablePlaces.mapM data.text)
  let entitlements ← liftExcept (entitlementPlaces.mapM data.text)
  return { header, regexes, variablePlaces, variableNames, variableStates, entitlementPlaces,
           entitlements, instructions, profiles,
           nodes := nodes.filterMap fun record => Node.decode? record.2,
           nodesOffset, blocks := blocks.map Prod.snd, blocksOffset, data, dataOffset }

/-- The parts of a compiled profile, or the first thing that is wrong with it. -/
def ofBytes (bytes : List UInt8) : Except BytecodeError Image :=
  match decoder.run (.ofBytes bytes) with
  | .ok image _ => .ok image
  | .error error _ => .error error

def dataPosition (image : Image) (place : UInt16) : Nat :=
  image.dataOffset + DataArea.position place

def regex (image : Image) (index : UInt16) : Except BytecodeError String :=
  match image.regexes[index.toNat]? with
  | none => .error (.offsetTooLarge index.toNat image.regexes.length)
  | some place => image.data.text place

def entitlement? (image : Image) (index : UInt16) : Option String :=
  image.entitlements[index.toNat]?

def singleName : String := "Single Profile"

def profileName (image : Image) (record : ProfileRecord) : Except BytecodeError String :=
  match record.nameOffset with
  | some place => image.data.text place
  | none => .ok singleName

/-- The first profile with the given name; profiles without a readable name have none. -/
def profileIndex? (image : Image) (name : String) : Option Nat :=
  image.profiles.findIdx? fun record =>
    match image.profileName record with
    | .ok found => found = name
    | .error _ => false

end Image

end SandboxPolicy
