import SandboxPolicy.Bytecode.Builder
import SandboxPolicy.OperationTable
import SandboxPolicy.Policy.Diagnostics

/-!
Compiling policies. Each operation gets a decision graph in which the last rule that applies
decides. The last rule without a filter settles everything before it, so the graph starts from its
verdict, or from denial if there is none, and tests the filters of the rules after it.
-/

namespace SandboxPolicy

inductive CompileError where
  | policy (error : PolicyError)
  | bytecode (error : BytecodeError)
  | duplicateProfile (name : String)
  | unknownFilter (name : String)
  | nativeUnavailable
deriving Repr, DecidableEq

namespace CompileError

def message : CompileError → String
  | .policy error => error.message
  | .bytecode error => "bytecode error: " ++ error.message
  | .duplicateProfile name => "duplicate profile name '" ++ name ++ "' in collection"
  | .unknownFilter name => "unsupported: filter '" ++ name ++ "'"
  | .nativeUnavailable => "unsupported: the native backend requires macOS libsandbox"

def help : CompileError → Option String
  | .policy error => error.help
  | .bytecode (.overflow table _ _) =>
      some ("the profile needs more " ++ table ++
        " than the format can hold; split it into a collection or merge filters")
  | .nativeUnavailable => some "use the builtin backend (--backend builtin)"
  | _ => none

end CompileError

/-- What decides one operation: a verdict, and tests of which the last that holds overrides it. -/
structure Chain where
  base : Verdict
  tests : List (Filter × Verdict)
deriving Repr, Inhabited

/-- The chain of the rules that apply to an operation. Rules before the last one without a filter
have no part in it. -/
def Chain.ofRules (rules : List Rule) : Chain where
  base := ((rules.reverse.find? fun rule => rule.filter.isNone).map Rule.verdict).getD .denial
  tests := (rules.reverse.takeWhile fun rule => rule.filter.isSome).reverse.filterMap fun rule =>
    rule.filter.map fun filter => (filter, rule.verdict)

abbrev Lower := EStateM CompileError Builder

namespace Lower

def build {α : Type} (step : Build α) : Lower α := EStateM.adaptExcept .bytecode step

def terminal (verdict : Verdict) : Lower UInt16 := build (Builder.node (.terminal verdict))

/-- The argument of a filter as a node holds it. A path that begins with a variable names it in the
table of variables too. -/
def argument : Argument → Build UInt16
  | .regex pattern => Builder.entry .regex pattern
  | .entitlement key => Builder.entry .entitlement key
  | .path path => do
      match patternVariable? path.toList with
      | some name => discard (Builder.entry .variable (String.ofList name))
      | none => pure ()
      Builder.text path
  | .name value | .keyword value | .address value => Builder.text value

mutual

/-- A node from which requests go on to `onMatch` if the filter holds, and to `onUnmatch` if not. -/
def filter (onMatch onUnmatch : UInt16) : Filter → Lower UInt16
  | .leaf name value =>
      match Catalogue.byName? name with
      | none => throw (.unknownFilter name)
      | some known => build do
          let place ← argument value
          Builder.node (.test known.id place onMatch onUnmatch)
  | .all items => allOf onMatch onUnmatch items
  | .any items => anyOf onMatch onUnmatch items
  | .not item => filter onUnmatch onMatch item

/-- The items are tested in order until one does not hold. -/
def allOf (onMatch onUnmatch : UInt16) : List Filter → Lower UInt16
  | [] => pure onMatch
  | first :: rest => do
      let after ← allOf onMatch onUnmatch rest
      filter after onUnmatch first

/-- The items are tested in order until one holds. -/
def anyOf (onMatch onUnmatch : UInt16) : List Filter → Lower UInt16
  | [] => pure onUnmatch
  | first :: rest => do
      let after ← anyOf onMatch onUnmatch rest
      filter onMatch after first

end

/-- The tests in front of a node, the last of them outermost. -/
def tests (entry : UInt16) : List (Filter × Verdict) → Lower UInt16
  | [] => pure entry
  | (guard, verdict) :: rest => do
      let decided ← terminal verdict
      let next ← filter decided entry guard
      tests next rest

def chain (chain : Chain) : Lower UInt16 := do
  let base ← terminal chain.base
  tests base chain.tests

end Lower

def Rule.slots (table : OperationTable) (rule : Rule) : Except CompileError (List Nat) :=
  rule.operations.mapM fun name =>
    match table.resolve name with
    | some slot => .ok slot
    | none => .error (.policy (.unknownOperation name none ⟨0, 0⟩))

/-- The numbers of the rules that apply to a slot, in source order. -/
def coveringRules (table : OperationTable) (slot : Nat) (rules : List (List Nat × Rule)) :
    List Nat :=
  (rules.zipIdx.filter fun entry =>
    entry.1.1.any fun ruleSlot => table.covers ruleSlot slot).map Prod.snd

def rulesAt (rules : List (List Nat × Rule)) (numbers : List Nat) : List Rule :=
  numbers.filterMap fun number => rules[number]?.map Prod.snd

/-- The chains that have been lowered, by the numbers of their rules, and where they start. -/
abbrev ChainMemory := Std.HashMap (List Nat) UInt16

namespace Lower

/-- The node where the decisions of a slot start. Slots to which the same rules apply share it. -/
def slot (table : OperationTable) (rules : List (List Nat × Rule)) (memory : ChainMemory)
    (slot : Nat) : Lower (UInt16 × ChainMemory) := do
  let covering := coveringRules table slot rules
  match memory[covering]? with
  | some entry => return (entry, memory)
  | none => do
      let entry ← chain (.ofRules (rulesAt rules covering))
      return (entry, memory.insert covering entry)

def slots (table : OperationTable) (rules : List (List Nat × Rule)) (memory : ChainMemory) :
    List Nat → Lower (List UInt16)
  | [] => return []
  | first :: rest => do
      let (entry, memory) ← slot table rules memory first
      return entry :: (← slots table rules memory rest)

end Lower

namespace Policy

def lower (table : OperationTable) (policy : Policy) : Lower (List UInt16) := do
  let rules ← liftExcept (policy.rules.mapM fun rule => return (← rule.slots table, rule))
  Lower.slots table rules ∅ (List.range table.size)

def check (table : OperationTable) (source : String) (parameters : Bindings) :
    Except PolicyError Policy := do
  let policy ← Policy.parse source parameters
  policy.validate source table
  return policy

end Policy

structure CompiledProfile where
  kind : ProfileKind
  bytecode : List UInt8
deriving Repr, DecidableEq, Inhabited

def finished (steps : Lower Unit) (builder : Builder) : Except CompileError CompiledProfile :=
  match steps.run builder with
  | .error error _ => .error error
  | .ok _ after =>
      match after.finish with
      | .error error => .error (.bytecode error)
      | .ok bytecode => .ok ⟨builder.kind, bytecode⟩

def addPolicy (table : OperationTable) (name : Option String) (policy : Policy) : Lower Unit := do
  let entries ← policy.lower table
  Lower.build (Builder.addProfile name entries)

def addSources (table : OperationTable) (parameters : Bindings) (seen : List String) :
    List (String × String) → Lower Unit
  | [] => pure ()
  | (name, source) :: rest => do
      if seen.contains name then throw (.duplicateProfile name)
      let policy ← liftExcept ((Policy.check table source parameters).mapError CompileError.policy)
      addPolicy table (some name) policy
      addSources table parameters (name :: seen) rest

def compile (table : OperationTable) (source : String) (parameters : Bindings) :
    Except CompileError CompiledProfile := do
  let policy ← (Policy.check table source parameters).mapError .policy
  let builder ← (Builder.start .single table.size).mapError .bytecode
  finished (addPolicy table none policy) builder

def compileCollection (table : OperationTable) (sources : List (String × String))
    (parameters : Bindings) : Except CompileError CompiledProfile := do
  let builder ← (Builder.start .collection table.size).mapError .bytecode
  finished (addSources table parameters [] sources) builder

inductive Backend where
  | builtin
  | native
deriving Repr, DecidableEq, Inhabited

namespace Backend

def name : Backend → String
  | .builtin => "builtin"
  | .native => "native"

def ofName? (name : String) : Option Backend :=
  if name = "builtin" then some .builtin else if name = "native" then some .native else none

def unknown (name : String) : String :=
  "unknown backend '" ++ name ++ "'; expected builtin or native"

def unavailable? : Backend → Option CompileError
  | .builtin => none
  | .native => some .nativeUnavailable

end Backend

end SandboxPolicy
