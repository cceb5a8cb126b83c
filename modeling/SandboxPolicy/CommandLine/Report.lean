import SandboxPolicy.Bytecode.Dissection
import SandboxPolicy.CommandLine.Failure
import SandboxPolicy.Json.Printer
import SandboxPolicy.Policy.Parser

/-!
What the commands print about tables, policies and compiled profiles.
-/

namespace SandboxPolicy

/-! ## Operation tables -/

namespace OperationTable

def toJson (table : OperationTable) : Json :=
  .array (table.names.zipIdx.map fun entry =>
    .object [("id", .ofNat entry.2), ("name", .str entry.1)])

def report (table : OperationTable) : String :=
  s!"{table.size} operations\n" ++
    String.join (table.names.zipIdx.map fun entry =>
      String.ofList ((toString entry.2).toList.leftpad 4 ' ') ++ " " ++ entry.1 ++ "\n")

end OperationTable

/-! ## Policies -/

structure PolicyReport where
  file : String
  rules : Option Nat
  complaints : List PolicyError
deriving Repr, DecidableEq

namespace PolicyReport

def ofSource (table : OperationTable) (parameters : Bindings) (file source : String) :
    PolicyReport :=
  match Policy.parse source parameters with
  | .ok policy => ⟨file, some policy.rules.length, policy.diagnostics source table⟩
  | .error error => ⟨file, none, [error]⟩

def isValid (report : PolicyReport) : Bool := report.complaints.isEmpty

def complaintJson (error : PolicyError) : Json :=
  .object (("message", .str error.message) ::
    match error.help with
    | some help => [("help", .str help)]
    | none => [])

def toJson (report : PolicyReport) : Json :=
  .object ([("file", .str report.file), ("valid", .bool report.isValid)] ++
    (match report.rules with
      | some count => [("rules", .ofNat count)]
      | none => []) ++
    [("diagnostics", .array (report.complaints.map complaintJson))])

def complaintLines (file : String) (error : PolicyError) : String :=
  file ++ ":" ++ error.message ++ "\n" ++
    match error.help with
    | some help => "  help: " ++ help ++ "\n"
    | none => ""

def render (report : PolicyReport) : String :=
  if report.isValid then s!"ok {report.file} ({report.rules.getD 0} rules)\n"
  else String.join (report.complaints.map (complaintLines report.file))

def failure? (report : PolicyReport) : Option Failure :=
  if report.isValid then none
  else some (.plain s!"{report.file} has {report.complaints.length} problem(s)")

end PolicyReport

/-! ## Compiled profiles -/

namespace Dissection

def toJson (dissection : Dissection) : Json :=
  let sections := dissection.sections.mergeSort fun left right => left.1 ≤ right.1
  .object
    [("header", dissection.header.toJson),
     ("sections", .object (sections.map fun part => (part.1, .array (part.2.map Item.toJson))))]

def operationLine (operation : NamedOperation) : String :=
  s!"    {operation.name} -> node {operation.entry}\n"

/-- The operations that do not start at the same node as the first one, and how many others do. -/
def operationLines : List NamedOperation → String
  | [] => ""
  | first :: rest =>
      let own := rest.filter fun operation => operation.entry ≠ first.entry
      let shared := rest.length - own.length
      operationLine first ++ String.join (own.map operationLine) ++
        if shared = 0 then "" else s!"    ({shared} operations share the default entry)\n"

def itemLines (item : Item) : String :=
  "  " ++ item.render ++ "\n" ++
    match item with
    | .profile _ _ _ _ operations => operationLines operations
    | _ => ""

def sectionLines (title : String) (items : List Item) : String :=
  if items.isEmpty then ""
  else s!"\n{title} ({items.length}):\n" ++ String.join (items.map itemLines)

def kindTitle : ProfileKind → String
  | .single => "Single"
  | .collection => "Collection"

def render (dissection : Dissection) : String :=
  let header := dissection.header
  s!"Kind: {kindTitle header.kind}\n" ++
    s!"Operations: {header.operationCount}  Nodes: {header.nodeCount}  " ++
    s!"Blocks: {header.blockCount}\n" ++
    String.join (dissection.sections.map fun part => sectionLines part.1 part.2)

end Dissection

end SandboxPolicy
