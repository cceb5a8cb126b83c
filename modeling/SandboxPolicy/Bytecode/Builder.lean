import SandboxPolicy.Bytecode.Data
import SandboxPolicy.Bytecode.Interner
import SandboxPolicy.Bytecode.Node
import SandboxPolicy.Bytecode.Profile

/-!
Writing compiled profiles. Nodes, texts and blobs are kept once: asking for one that is there
already gives its place again. A step that fails leaves the builder as it was.
-/

namespace SandboxPolicy

/-- A table of texts. Each is also a blob, whose place the table stores. -/
structure TextTable where
  texts : Interner String
  places : Array UInt16

def TextTable.empty : TextTable := ⟨.empty, #[]⟩

structure Builder where
  kind : ProfileKind
  operationCount : UInt8
  profiles : Array ProfileRecord
  nodes : Interner Node
  regexTable : TextTable
  variableTable : TextTable
  entitlementTable : TextTable
  blobs : Interner (List UInt8)

abbrev Build := EStateM BytecodeError Builder

inductive TableKind where
  | regex
  | variable
  | entitlement
deriving Repr, DecidableEq, Inhabited

namespace TableKind

def name : TableKind → String
  | .regex => "regexes"
  | .variable => "variables"
  | .entitlement => "entitlements"

def limit : TableKind → Nat
  | .regex => 65535
  | .variable => 255
  | .entitlement => 65535

end TableKind

namespace Builder

def start (kind : ProfileKind) (operationCount : Nat) : Except BytecodeError Builder :=
  if operationCount ≤ 255 then
    .ok { kind, operationCount := UInt8.ofNat operationCount, profiles := #[], nodes := .empty,
          regexTable := .empty, variableTable := .empty, entitlementTable := .empty,
          blobs := .empty }
  else .error (.overflow "operation table" operationCount 255)

def table (builder : Builder) : TableKind → TextTable
  | .regex => builder.regexTable
  | .variable => builder.variableTable
  | .entitlement => builder.entitlementTable

def addText (builder : Builder) (kind : TableKind) (text : String) (place : UInt16) : Builder :=
  let extend := fun (table : TextTable) =>
    TextTable.mk (table.texts.add text 1) (table.places.push place)
  match kind with
  | .regex => { builder with regexTable := extend builder.regexTable }
  | .variable => { builder with variableTable := extend builder.variableTable }
  | .entitlement => { builder with entitlementTable := extend builder.entitlementTable }

def nodeLimit : Nat := 255

def node (entry : Node) : Build UInt16 := fun builder =>
  match builder.nodes.find? entry with
  | some index => .ok (UInt16.ofNat index) builder
  | none =>
      let index := builder.nodes.next
      if nodeLimit ≤ index then .error (.overflow "operation entries" (index + 1) nodeLimit) builder
      else .ok (UInt16.ofNat index) { builder with nodes := builder.nodes.add entry 1 }

def blob (bytes : List UInt8) : Build UInt16 := fun builder =>
  match builder.blobs.find? bytes with
  | some place => .ok (UInt16.ofNat place) builder
  | none =>
      let length := bytes.length
      let place := builder.blobs.next
      if 65535 < length then .error (.overflow "data entry" length 65535) builder
      else if 65535 < place then .error (.overflow "data area" place 65535) builder
      else
        .ok (UInt16.ofNat place)
          { builder with blobs := builder.blobs.add bytes (DataArea.units length) }

def text (value : String) : Build UInt16 := blob (utf8Bytes value)

def entry (kind : TableKind) (value : String) : Build UInt16 := do
  let texts := ((← get).table kind).texts
  match texts.find? value with
  | some index => return UInt16.ofNat index
  | none =>
      let index := texts.next
      if kind.limit ≤ index then throw (.overflow kind.name (index + 1) kind.limit)
      let place ← text value
      modify fun builder => builder.addText kind value place
      return UInt16.ofNat index

/-- Adds a profile. Its name is kept in a collection only, and a profile without one has the empty
name there. -/
def addProfile (name : Option String) (operations : List UInt16) : Build Unit := do
  let builder ← get
  let declared := builder.operationCount.toNat
  if operations.length ≠ declared then throw (.operationCount declared operations.length)
  let nameOffset ←
    match builder.kind with
    | .single =>
        if builder.profiles.isEmpty then pure none else throw (.overflow "profiles" 2 1)
    | .collection => some <$> text (name.getD "")
  modify fun builder =>
    { builder with
      profiles := builder.profiles.push ⟨builder.profiles.size, nameOffset, 0, 0, operations⟩ }

def header (builder : Builder) : Header where
  kind := builder.kind
  nodeCount := UInt8.ofNat builder.nodes.entries.size
  blockCount := 0
  operationCount := builder.operationCount
  variableCount := UInt8.ofNat builder.variableTable.places.size
  variableStateCount := 0
  profileCount :=
    match builder.kind with
    | .single => 0
    | .collection => UInt16.ofNat builder.profiles.size
  regexCount := UInt16.ofNat builder.regexTable.places.size
  entitlementCount := UInt16.ofNat builder.entitlementTable.places.size
  instructionCount := 0

def preamble (builder : Builder) : List UInt8 :=
  builder.header.encode ++
    (builder.regexTable.places ++ builder.variableTable.places ++
      builder.entitlementTable.places).toList.flatMap wordBytes ++
    builder.profiles.toList.flatMap ProfileRecord.encode

def layout (builder : Builder) : List UInt8 :=
  padded builder.preamble ++ builder.nodes.entries.toList.flatMap Node.encode ++
    builder.blobs.entries.toList.flatMap DataArea.encodeBlob

/-- A count has to fit into its field of the header. -/
def narrow (table : String) (count limit : Nat) : Except BytecodeError Unit :=
  if count ≤ limit then .ok () else .error (.overflow table count limit)

def finish (builder : Builder) : Except BytecodeError (List UInt8) := do
  if builder.profiles.isEmpty then throw .noProfile
  narrow "operation entries" builder.nodes.entries.size nodeLimit
  narrow TableKind.variable.name builder.variableTable.places.size TableKind.variable.limit
  if builder.kind = .collection then narrow "profiles" builder.profiles.size 65535
  narrow TableKind.regex.name builder.regexTable.places.size TableKind.regex.limit
  narrow TableKind.entitlement.name builder.entitlementTable.places.size
    TableKind.entitlement.limit
  return builder.layout

end Builder

end SandboxPolicy
