import SandboxPolicy.OperationTable
import SandboxPolicy.Policy.Parser

/-!
What is wrong with a policy that could be read: its version, the operations it names and the
arguments of its filters.
-/

namespace SandboxPolicy

def checkPath (path : String) : Except ArgumentFault Unit :=
  if path.toList.head? = some '/' then .ok ()
  else
    match patternVariable? path.toList with
    | some (_ :: _) => .ok ()
    | _ => .error (.relativePath path)

def checkName (name : String) : Except ArgumentFault Unit :=
  if name.isEmpty then .error .emptyName else .ok ()

def checkKeyword (values : List String) (value : String) : Except ArgumentFault Unit :=
  if value ∈ values then .ok () else .error (.unknownValue value)

/-- An address has a host and, after the last colon, a star or the number of a port. -/
def checkAddress (address : String) : Except ArgumentFault Unit :=
  match splitLast? ':' address.toList with
  | none => .error (.noPort address)
  | some (host, port) =>
      if host.isEmpty then .error (.emptyHost address)
      else if port ≠ ['*'] ∧ (readNumber 0xffff (String.ofList port)).isNone then
        .error (.badPort (String.ofList port))
      else .ok ()

def checkRegex (pattern : String) : Except ArgumentFault Unit :=
  match Regex.compile pattern with
  | .ok _ => .ok ()
  | .error error => .error (.regex error)

def checkArgument (filter : String) (argument : Argument) : Except ArgumentFault Unit :=
  match Catalogue.byName? filter with
  | none => .error (.unknownFilter filter)
  | some known =>
      match known.kind, argument with
      | .path, .path path => checkPath path
      | .regex, .regex pattern => checkRegex pattern
      | .name, .name name => checkName name
      | .entitlement, .entitlement key => checkName key
      | .keyword values, .keyword value => checkKeyword values value
      | .address, .address address => checkAddress address
      | kind, argument => .error (.wrongKind kind argument)

def leafDiagnostic (position : Position) (leaf : String × Argument) : Option PolicyError :=
  match checkArgument leaf.1 leaf.2 with
  | .ok _ => none
  | .error fault =>
      match leaf.2 with
      | .regex pattern => some (.invalidRegex pattern fault position)
      | _ => some (.invalidArgument leaf.1 fault position)

def operationDiagnostic (table : OperationTable) (position : Position) (name : String) :
    Option PolicyError :=
  match table.resolve name with
  | some _ => none
  | none => some (.unknownOperation name (closest name table.names) position)

def Rule.diagnostics (source : String) (table : OperationTable) (rule : Rule) : List PolicyError :=
  let position := positionAt source rule.span.start
  rule.operations.filterMap (operationDiagnostic table position) ++
    ((rule.filter.map Filter.leaves).getD []).filterMap (leafDiagnostic position)

def isSupportedVersion (version : UInt32) : Bool := 1 ≤ version && version ≤ 3

namespace Policy

def versionDiagnostics (source : String) (policy : Policy) : List PolicyError :=
  if isSupportedVersion policy.version then []
  else [.unsupportedVersion policy.version (positionAt source policy.versionSpan.start)]

/-- Every complaint about a policy; `source` is the text it was read from. -/
def diagnostics (policy : Policy) (source : String) (table : OperationTable) : List PolicyError :=
  versionDiagnostics source policy ++ policy.rules.flatMap (Rule.diagnostics source table)

def validate (policy : Policy) (source : String) (table : OperationTable) :
    Except PolicyError Unit :=
  match policy.diagnostics source table with
  | [] => .ok ()
  | error :: _ => .error error

end Policy

end SandboxPolicy
