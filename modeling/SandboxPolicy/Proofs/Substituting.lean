import Mathlib
import SandboxPolicy.Proofs.Collections
import SandboxPolicy.Proofs.Economy
import SandboxPolicy.Proofs.PolicyPlaces

/-!
Variables of paths. To bind them when a profile is evaluated comes to the same as to write their
values into the policy before it is compiled.
-/

namespace SandboxPolicy

/-! Writing values into a policy. -/

def Bindings.fill (bindings : Bindings) (path : List Char) : List Char :=
  match (afterStart? ['$', '\x7b'] path).bind (splitFirst? '\x7d') with
  | none => path
  | some (name, rest) =>
      match bindings.get? (String.ofList name) with
      | none => path
      | some value => value.toList ++ rest

def Argument.filled (bindings : Bindings) : Argument → Argument
  | .path value => .path (String.ofList (bindings.fill value.toList))
  | argument => argument

namespace Filter

mutual

def filled (bindings : Bindings) : Filter → Filter
  | .leaf name argument => .leaf name (argument.filled bindings)
  | .all items => .all (filledItems bindings items)
  | .any items => .any (filledItems bindings items)
  | .not item => .not (item.filled bindings)

def filledItems (bindings : Bindings) : List Filter → List Filter
  | [] => []
  | item :: rest => item.filled bindings :: filledItems bindings rest

end

end Filter

def Rule.filled (bindings : Bindings) (rule : Rule) : Rule :=
  { rule with filter := rule.filter.map (Filter.filled bindings) }

def Policy.filled (bindings : Bindings) (policy : Policy) : Policy :=
  { policy with rules := policy.rules.map (Rule.filled bindings) }

namespace Bindings

variable {bindings : Bindings} {path name : List Char} {value : String}

end Bindings

/-! Filters. -/

namespace Filter

variable {bindings : Bindings} {test test' : String → Argument → Bool}

mutual

theorem holds_filled : (guard : Filter) →
    (∀ leaf ∈ guard.leaves, test' leaf.1 (leaf.2.filled bindings) = test leaf.1 leaf.2) →
    (guard.filled bindings).holds test' = guard.holds test
  | .leaf name argument, same => same (name, argument) (List.mem_singleton_self _)
  | .all items, same => (holds_filledItems items same).1
  | .any items, same => (holds_filledItems items same).2
  | .not item, same => congrArg (!·) (holds_filled item same)

theorem holds_filledItems : (items : List Filter) →
    (∀ leaf ∈ leavesOf items, test' leaf.1 (leaf.2.filled bindings) = test leaf.1 leaf.2) →
    allHold test' (filledItems bindings items) = allHold test items ∧
      anyHolds test' (filledItems bindings items) = anyHolds test items
  | [], _ => ⟨rfl, rfl⟩
  | item :: rest, same => by
      have first := holds_filled item fun leaf inside =>
        same leaf (List.mem_append_left _ inside)
      have others := holds_filledItems rest fun leaf inside =>
        same leaf (List.mem_append_right _ inside)
      constructor
      · rw [filledItems, allHold, allHold, first, others.1]
      · rw [filledItems, anyHolds, anyHolds, first, others.2]

end

end Filter

namespace Policy

variable {table : OperationTable} {policy other : Policy} {bindings : Bindings}

end Policy

end SandboxPolicy
