import SandboxPolicy.Bytecode.Reader
import SandboxPolicy.Catalogue
import SandboxPolicy.Json.Basic
import SandboxPolicy.Policy.Basic

/-!
Nodes of the decision graph. A node tests a filter and names the nodes that follow, or it is
terminal and holds a verdict.
-/

namespace SandboxPolicy

/--
A node as it is stored. The argument of a filter is a place in the data or an index into a table;
that of a terminal node is the code of its action, and its first target holds the modifiers.
-/
structure Node where
  opcode : UInt8
  filter : UInt8
  argument : UInt16
  onMatch : UInt16
  onUnmatch : UInt16
deriving Repr, DecidableEq, Hashable, Inhabited

namespace Node

def filterOpcode : UInt8 := 0

def terminalOpcode : UInt8 := 1

def terminal (verdict : Verdict) : Node :=
  ⟨terminalOpcode, 0, verdict.action.code, verdict.modifiers.bits, 0⟩

def test (filter : UInt8) (argument onMatch onUnmatch : UInt16) : Node :=
  ⟨filterOpcode, filter, argument, onMatch, onUnmatch⟩

def decode? : List UInt8 → Option Node
  | [opcode, filter, b2, b3, b4, b5, b6, b7] =>
      some ⟨opcode, filter, wordOf b2 b3, wordOf b4 b5, wordOf b6 b7⟩
  | _ => none

def encode (node : Node) : List UInt8 :=
  [node.opcode, node.filter] ++ wordBytes node.argument ++ wordBytes node.onMatch ++
    wordBytes node.onUnmatch

def isTerminal (node : Node) : Bool := node.opcode = terminalOpcode

/-- The verdict of a terminal node; bits that are no modifier are ignored. -/
def verdict? (node : Node) : Option Verdict :=
  if node.isTerminal then
    (Action.ofCode? node.argument).map fun action => ⟨action, Modifiers.ofBits node.onMatch⟩
  else none

def filterName (filter : UInt8) : String :=
  match Catalogue.byId? filter with
  | some known => known.name
  | none => "filter#" ++ hexPadded 2 filter.toNat

def render (node : Node) : String :=
  match node.verdict? with
  | some verdict => verdict.render
  | none =>
      filterName node.filter ++ " arg=0x" ++ hexPadded 4 node.argument.toNat ++
        s!" match->{node.onMatch} unmatch->{node.onUnmatch}"

def toJson (node : Node) : Json :=
  .object
    [("argument", .ofNat node.argument.toNat),
     ("filter", .ofNat node.filter.toNat),
     ("on_match", .ofNat node.onMatch.toNat),
     ("on_unmatch", .ofNat node.onUnmatch.toNat),
     ("opcode", .ofNat node.opcode.toNat)]

theorem decode?_encode (node : Node) : decode? node.encode = some node := by
  simp [decode?, encode, wordBytes, wordOf_wordBytes]

end Node

end SandboxPolicy
