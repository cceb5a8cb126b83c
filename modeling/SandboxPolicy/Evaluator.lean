import SandboxPolicy.Bindings
import SandboxPolicy.Bytecode.Image
import SandboxPolicy.OperationTable
import SandboxPolicy.Regex.Compile

/-!
Deciding requests by a compiled profile: a walk from node to node until a terminal one. It ends for
any bytes, because no node is visited twice.
-/

namespace SandboxPolicy

inductive EvalError where
  | bytecode (error : BytecodeError)
  | unknownOperation (name : String)
  | noSuchProfile (index count : Nat)
  | danglingEntry (operation index count : Nat)
  | danglingNode (source index count : Nat)
  | cycle (index : Nat)
  | unknownFilter (index : Nat) (filter : UInt8)
  | invalidNode (index : Nat)
  | invalidRegex (index : Nat) (fault : String)
deriving Repr, DecidableEq

def EvalError.message : EvalError → String
  | .bytecode error => error.message
  | .unknownOperation name => "unknown operation '" ++ name ++ "'"
  | .noSuchProfile index count => s!"profile {index} does not exist ({count} profiles)"
  | .danglingEntry operation index count =>
      s!"operation {operation} enters at node {index}, but only {count} exist"
  | .danglingNode source index count =>
      s!"node {source} points at node {index}, but only {count} exist"
  | .cycle index => s!"cycle detected at node {index}"
  | .unknownFilter index filter =>
      s!"node {index} uses unknown filter 0x" ++ hexPadded 2 filter.toNat
  | .invalidNode index => s!"node {index} has an invalid terminal or opcode"
  | .invalidRegex index fault => s!"regex {index} does not compile: " ++ fault

/-- What is asked: an operation, what it acts on, and the entitlements of the one who asks. -/
structure Request where
  operation : String
  argument : Option String
  entitlements : List String
deriving Repr, DecidableEq, Inhabited

/-- The answer: the verdict, the slot of the operation, and the nodes visited. -/
structure Decision where
  verdict : Verdict
  operation : Nat
  trace : List Nat
deriving Repr, DecidableEq, Inhabited

/-- Does a path lie at or below another? Slashes at the end of the upper path do not count. -/
def subpathMatches (base path : List Char) : Bool :=
  match afterStart? (trimEnd (· == '/') base) path with
  | none => false
  | some rest => (rest.isEmpty && !(trimEnd (· == '/') base).isEmpty) || rest.head? == some '/'

/-- Does an address with a port match a pattern, in which a star stands for any host or port? -/
def addressMatches (pattern address : List Char) : Bool :=
  match splitLast? ':' pattern, splitLast? ':' address with
  | some (patternHost, patternPort), some (host, port) =>
      (patternHost == ['*'] || patternHost == host) && (patternPort == ['*'] || patternPort == port)
  | _, _ => false

structure Evaluator where
  image : Image
  table : OperationTable
  regexes : List Regex.Pattern
  bindings : Bindings

namespace Evaluator

def readRegex (image : Image) (index : Nat) (place : UInt16) : Except EvalError Regex.Pattern := do
  let source ← (image.data.text place).mapError .bytecode
  (Regex.compile source).mapError fun error => .invalidRegex index error.message

def ofImage (image : Image) (table : OperationTable) : Except EvalError Evaluator := do
  let declared := image.header.operationCount.toNat
  if declared ≠ table.size then throw (.bytecode (.operationCount declared table.size))
  let regexes ← image.regexes.zipIdx.mapM fun entry => readRegex image entry.2 entry.1
  return { image, table, regexes, bindings := .empty }

def ofBytes (bytes : List UInt8) (table : OperationTable) : Except EvalError Evaluator := do
  ofImage (← (Image.ofBytes bytes).mapError .bytecode) table

def bind (evaluator : Evaluator) (name value : String) : Evaluator :=
  { evaluator with bindings := evaluator.bindings.insert name value }

def profileCount (evaluator : Evaluator) : Nat := evaluator.image.profiles.length

/-- A path with the value of its variable in place; without a value there is no path. -/
def expand (bindings : Bindings) (path : List Char) : Option (List Char) :=
  match patternVariable? path with
  | none => some path
  | some name =>
      (bindings.get? (String.ofList name)).map fun value =>
        value.toList ++ path.drop (name.length + 3)

def pathMatches (bindings : Bindings) (filter : String) (path argument : List Char) : Bool :=
  match expand bindings path with
  | none => false
  | some path =>
      if filter = "subpath" then subpathMatches path argument
      else if filter = "prefix" then (afterStart? path argument).isSome
      else argument == path

def argumentMatches (evaluator : Evaluator) (filter : FilterDef) (node : Node)
    (argument : String) : Except BytecodeError Bool :=
  match filter.kind with
  | .regex =>
      match evaluator.regexes[node.argument.toNat]? with
      | none => .error (.offsetTooLarge node.argument.toNat evaluator.regexes.length)
      | some pattern => .ok (pattern.matchesText argument)
  | .path => do
      let path ← evaluator.image.data.text node.argument
      return pathMatches evaluator.bindings filter.name path.toList argument.toList
  | .address => do
      let pattern ← evaluator.image.data.text node.argument
      return addressMatches pattern.toList argument.toList
  | .name | .keyword _ => do
      return argument == (← evaluator.image.data.text node.argument)
  | .entitlement => .ok false

def nodeMatches (evaluator : Evaluator) (request : Request) (index : Nat) (node : Node) :
    Except EvalError Bool :=
  match Catalogue.byId? node.filter with
  | none => .error (.unknownFilter index node.filter)
  | some filter =>
      if filter.kind = .entitlement then
        match evaluator.image.entitlement? node.argument with
        | some key => .ok (request.entitlements.contains key)
        | none => .ok false
      else
        match request.argument with
        | none => .ok false
        | some argument => (evaluator.argumentMatches filter node argument).mapError .bytecode

/-- The complaint about a node that does not exist, with the node or the operation that leads to
it. -/
def dangling (operation : Nat) (source : Option Nat) (index count : Nat) : EvalError :=
  match source with
  | some source => .danglingNode source index count
  | none => .danglingEntry operation index count

/--
The verdict at the end of a walk and the nodes on it. `unvisited` holds the indices of the nodes
that the walk has not come to yet, so it shrinks with every step.
-/
def walk (evaluator : Evaluator) (request : Request) (operation : Nat) (source : Option Nat)
    (unvisited : List Nat) (index : Nat) : Except EvalError (Verdict × List Nat) :=
  match evaluator.image.nodes[index]? with
  | none => .error (dangling operation source index evaluator.image.nodes.length)
  | some node =>
      if _member : index ∈ unvisited then
        if node.isTerminal then
          match node.verdict? with
          | some verdict => .ok (verdict, [index])
          | none => .error (.invalidNode index)
        else if node.opcode = Node.filterOpcode then
          match evaluator.nodeMatches request index node with
          | .error error => .error error
          | .ok holds =>
              let next := if holds then node.onMatch else node.onUnmatch
              (evaluator.walk request operation (some index) (unvisited.erase index)
                next.toNat).map fun rest => (rest.1, index :: rest.2)
        else .error (.invalidNode index)
      else .error (.cycle index)
termination_by unvisited.length
decreasing_by
  rw [List.length_erase_of_mem _member]
  exact Nat.sub_one_lt (Nat.ne_of_gt (List.length_pos_of_mem _member))

def evaluate (evaluator : Evaluator) (profile : Nat) (request : Request) :
    Except EvalError Decision :=
  match evaluator.image.profiles[profile]? with
  | none => .error (.noSuchProfile profile evaluator.profileCount)
  | some record =>
      match evaluator.table.resolve request.operation with
      | none => .error (.unknownOperation request.operation)
      | some operation =>
          let entry := (record.operations[operation]?.getD 0).toNat
          let unvisited := List.range evaluator.image.nodes.length
          (evaluator.walk request operation none unvisited entry).map fun result =>
            ⟨result.1, operation, result.2⟩

end Evaluator

end SandboxPolicy
