import SandboxPolicy.Bytecode.Image
import SandboxPolicy.OperationTable

/-!
A compiled profile as lists of items, each with its place in the bytes.
-/

namespace SandboxPolicy

structure NamedOperation where
  slot : Nat
  name : String
  entry : UInt16
deriving Repr, DecidableEq, Inhabited

inductive Item where
  | data (index offset : Nat) (bytes : List UInt8)
  | text (index offset : Nat) (value : String)
  | profile (index offset : Nat) (name : String) (syscallMask : UInt16)
      (operations : List NamedOperation)
  | node (index offset : Nat) (entry : Node)
deriving Repr, DecidableEq, Inhabited

namespace Item

def index : Item → Nat
  | .data index _ _ | .text index _ _ | .profile index _ _ _ _ | .node index _ _ => index

def offset : Item → Nat
  | .data _ offset _ | .text _ offset _ | .profile _ offset _ _ _ | .node _ offset _ => offset

def content : Item → String
  | .data _ _ bytes => s!"{bytes.length} bytes"
  | .text _ _ value => quoted value
  | .profile _ _ name syscallMask _ =>
      name ++ " (syscall mask 0x" ++ hexPadded 4 syscallMask.toNat ++ ")"
  | .node _ _ entry => entry.render

def render (item : Item) : String :=
  s!"#{item.index} @ 0x" ++ hexPadded 4 item.offset ++ ": " ++ item.content

def toJson : Item → Json
  | .data index offset bytes =>
      .object
        [("index", .ofNat index), ("offset", .ofNat offset), ("type", .str "data"),
         ("value", .array (bytes.map fun byte => .ofNat byte.toNat))]
  | .text index offset value =>
      .object
        [("index", .ofNat index), ("offset", .ofNat offset), ("type", .str "string"),
         ("value", .str value)]
  | .profile index offset name syscallMask operations =>
      .object
        [("index", .ofNat index), ("name", .str name), ("offset", .ofNat offset),
         ("operations", .array (operations.map fun operation => .object
           [("entry", .ofNat operation.entry.toNat), ("name", .str operation.name),
            ("operation_id", .ofNat operation.slot)])),
         ("syscall_mask", .ofNat syscallMask.toNat), ("type", .str "profile")]
  | .node index offset entry =>
      .object
        [("entry", entry.toJson), ("index", .ofNat index), ("offset", .ofNat offset),
         ("type", .str "operation")]

end Item

structure Dissection where
  header : Header
  regexes : List Item
  variableNames : List Item
  variableStates : List Item
  entitlements : List Item
  instructions : List Item
  profiles : List Item
  operationEntries : List Item
  blocks : List Item
deriving Repr, DecidableEq, Inhabited

namespace Dissection

def itemsOf {α : Type} (item : Nat → α → Except BytecodeError Item) (entries : List α) :
    Except BytecodeError (List Item) :=
  entries.zipIdx.mapM fun entry => item entry.2 entry.1

def dataItem (image : Image) (index : Nat) (place : UInt16) : Except BytecodeError Item :=
  return .data index (image.dataPosition place) (← image.data.blob place)

def textItem (image : Image) (index : Nat) (place : UInt16) : Except BytecodeError Item :=
  return .text index (image.dataPosition place) (← image.data.text place)

def regexItem (image : Image) (index : Nat) (place : UInt16) : Except BytecodeError Item := do
  let bytes ← image.data.blob place
  match utf8Text? bytes with
  | some value => return .text index (image.dataPosition place) value
  | none => return .data index (image.dataPosition place) bytes

def profileItem (image : Image) (table : OperationTable) (record : ProfileRecord) :
    Except BytecodeError Item := do
  let operations := record.operations.zipIdx.map fun entry =>
    NamedOperation.mk entry.2 ((table.name? entry.2).getD "") entry.1
  return .profile record.index record.offset (← image.profileName record) record.syscallMask
    operations

def ofImage (image : Image) (table : OperationTable) : Except BytecodeError Dissection := do
  let declared := image.header.operationCount.toNat
  if declared ≠ table.size then throw (.operationCount declared table.size)
  let regexes ← itemsOf (regexItem image) image.regexes
  let variableNames ← itemsOf (textItem image) image.variablePlaces
  let variableStates ← itemsOf (dataItem image) image.variableStates
  let entitlements ← itemsOf (textItem image) image.entitlementPlaces
  let instructions ← itemsOf (dataItem image) image.instructions
  let profiles ← image.profiles.mapM (profileItem image table)
  let operationEntries := image.nodes.zipIdx.map fun entry =>
    Item.node entry.2 (image.nodesOffset + entry.2 * Image.nodeLength) entry.1
  let blocks := image.blocks.zipIdx.map fun entry =>
    Item.data entry.2 (image.blocksOffset + entry.2 * Image.blockLength) entry.1
  return { header := image.header, regexes, variableNames, variableStates, entitlements,
           instructions, profiles, operationEntries, blocks }

def ofBytes (bytes : List UInt8) (table : OperationTable) : Except BytecodeError Dissection := do
  ofImage (← Image.ofBytes bytes) table

def sections (dissection : Dissection) : List (String × List Item) :=
  [("Regexes", dissection.regexes),
   ("Variables", dissection.variableNames),
   ("Variable States", dissection.variableStates),
   ("Entitlements", dissection.entitlements),
   ("Instructions", dissection.instructions),
   ("Profiles", dissection.profiles),
   ("Operation Entries", dissection.operationEntries),
   ("Blocks", dissection.blocks)]

end Dissection

end SandboxPolicy
