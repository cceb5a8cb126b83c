import SandboxPolicy.CommandLine.Arguments
import SandboxPolicy.CommandLine.Failure
import SandboxPolicy.Json.Printer

/-!
Deciding a request by a policy, given as source or compiled.
-/

namespace SandboxPolicy

/-- Do the bytes look like the source of a policy: a text whose first solid character opens a form
or a comment? -/
def isSource (bytes : List UInt8) : Bool :=
  match utf8Text? bytes with
  | none => false
  | some text =>
      match (trimStart isBlank text.toList).head? with
      | some c => c = '(' || c = ';'
      | none => false

def compiledBytes (table : OperationTable) (parameters : Bindings) (file : String)
    (bytes : List UInt8) : Except Failure (List UInt8) :=
  if isSource bytes then
    match compile table ((utf8Text? bytes).getD "") parameters with
    | .ok profile => .ok profile.bytecode
    | .error error => .error ((Failure.ofCompile error).within ("failed to compile " ++ file))
  else .ok bytes

def loadEvaluator (table : OperationTable) (parameters : Bindings) (file : String)
    (bytes : List UInt8) : Except Failure Evaluator := do
  let bytecode ← compiledBytes table parameters file bytes
  match Evaluator.ofBytes bytecode table with
  | .ok evaluator =>
      return parameters.entries.foldl (fun evaluator entry => evaluator.bind entry.1 entry.2)
        evaluator
  | .error error => throw ((Failure.ofEval error).within ("failed to load " ++ file))

def selectProfile (evaluator : Evaluator) (selector : String) : Except Failure Nat :=
  match readNumber Arguments.greatestNumber selector with
  | some index => .ok index
  | none =>
      match evaluator.image.profileIndex? selector with
      | some index => .ok index
      | none => .error (.plain ("no profile named '" ++ selector ++ "'"))

namespace Decision

def toJson (decision : Decision) (profile : Nat) (request : Request) : Json :=
  .object
    [("decision", .object
      [("action", .str decision.verdict.action.name),
       ("modifiers", .strings decision.verdict.modifiers.names),
       ("operation", .ofNat decision.operation),
       ("trace", .array (decision.trace.map .ofNat))]),
     ("profile", .ofNat profile),
     ("request", .object
      [("argument", .ofOption .str request.argument),
       ("entitlements", .strings request.entitlements),
       ("operation", .str request.operation)])]

def traceLines (decision : Decision) (image : Image) : String :=
  String.join (decision.trace.filterMap fun index =>
    image.nodes[index]?.map fun node => s!"  node {index}: {node.render}\n")

def render (decision : Decision) (image : Image) (request : Request) (verbose : Bool) : String :=
  decision.verdict.render ++ " " ++ request.operation ++
    (match request.argument with
      | some argument => " " ++ argument
      | none => "") ++ "\n" ++
    if verbose then decision.traceLines image else ""

end Decision

def checkRequest (table : OperationTable) (parameters : Bindings) (bytes : List UInt8)
    (options : CheckOptions) (verbose : Bool) : Except Failure String := do
  let evaluator ← loadEvaluator table parameters options.file bytes
  let profile ← selectProfile evaluator options.profile
  let request : Request := ⟨options.operation, options.argument, options.entitlements⟩
  match evaluator.evaluate profile request with
  | .error error =>
      throw ((Failure.ofEval error).within ("failed to evaluate " ++ options.operation))
  | .ok decision =>
      if options.json then return (decision.toJson profile request).render ++ "\n"
      else return decision.render evaluator.image request verbose

end SandboxPolicy
