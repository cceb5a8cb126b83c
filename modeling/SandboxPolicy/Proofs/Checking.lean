import SandboxPolicy.Compiler
import SandboxPolicy.Proofs.Outcome

/-!
What is known of a policy that was checked: the table knows its operations, and each test has an
argument that its filter takes.
-/

namespace SandboxPolicy

namespace Catalogue

theorem byName?_name {name : String} {known : FilterDef} (found : byName? name = some known) :
    known.name = name := by
  have named := List.find?_some found
  simpa using named

theorem byId?_of_byName? {name : String} {known : FilterDef} (found : byName? name = some known) :
    byId? known.id = some known := by
  have all : ∀ filter ∈ filters, byId? filter.id = some filter := by decide
  exact all known (List.mem_of_find?_eq_some found)

end Catalogue

inductive Argument.Suits : ArgumentKind → Argument → Prop where
  | path (value : String) : Suits .path (.path value)
  | regex {value : String} {pattern : Regex.Pattern} :
      Regex.compile value = .ok pattern → Suits .regex (.regex value)
  | name (value : String) : Suits .name (.name value)
  | keyword (values : List String) (value : String) : Suits (.keyword values) (.keyword value)
  | address (value : String) : Suits .address (.address value)
  | entitlement (value : String) : Suits .entitlement (.entitlement value)

theorem Argument.Suits.entitlement_iff {kind : ArgumentKind} {argument : Argument}
    (suits : argument.Suits kind) :
    kind = .entitlement ↔ ∃ key, argument = .entitlement key := by
  cases suits <;> simp

theorem checkArgument_suits {filter : String} {argument : Argument}
    (checked : checkArgument filter argument = .ok ()) :
    ∃ known, Catalogue.byName? filter = some known ∧ argument.Suits known.kind := by
  rw [checkArgument] at checked
  split at checked
  next => simp at checked
  next known found =>
    refine ⟨known, found, ?_⟩
    split at checked
    next isPath => exact isPath ▸ .path _
    next isRegex =>
      rw [checkRegex] at checked
      split at checked
      next compiled => exact isRegex ▸ .regex compiled
      next => simp at checked
    next isName => exact isName ▸ .name _
    next isEntitlement => exact isEntitlement ▸ .entitlement _
    next isKeyword => exact isKeyword ▸ .keyword _ _
    next isAddress => exact isAddress ▸ .address _
    next => simp at checked

def Filter.Valid (guard : Filter) : Prop :=
  ∀ leaf ∈ guard.leaves, checkArgument leaf.1 leaf.2 = .ok ()

theorem Filter.mem_leavesOf {items : List Filter} {leaf : String × Argument} :
    leaf ∈ leavesOf items ↔ ∃ item ∈ items, leaf ∈ item.leaves := by
  induction items with
  | nil => simp [leavesOf]
  | cons first rest ih => simp [leavesOf, ih]

theorem Filter.Valid.all {items : List Filter} (valid : (Filter.all items).Valid) :
    ∀ item ∈ items, item.Valid := by
  intro item member leaf inside
  rw [Valid, leaves] at valid
  exact valid leaf (mem_leavesOf.mpr ⟨item, member, inside⟩)

theorem Filter.Valid.any {items : List Filter} (valid : (Filter.any items).Valid) :
    ∀ item ∈ items, item.Valid := by
  intro item member leaf inside
  rw [Valid, leaves] at valid
  exact valid leaf (mem_leavesOf.mpr ⟨item, member, inside⟩)

theorem Filter.Valid.not {item : Filter} (valid : (Filter.not item).Valid) : item.Valid := by
  rw [Valid, leaves] at valid
  exact valid

structure Rule.Valid (table : OperationTable) (rule : Rule) : Prop where
  operations : ∀ name ∈ rule.operations, (table.resolve name).isSome
  filter : ∀ guard, rule.filter = some guard → guard.Valid

theorem operationDiagnostic_none {table : OperationTable} {position : Position} {name : String}
    (silent : operationDiagnostic table position name = none) : (table.resolve name).isSome := by
  rw [operationDiagnostic] at silent
  split at silent
  next found => simp [found]
  next => simp at silent

theorem leafDiagnostic_none {position : Position} {leaf : String × Argument}
    (silent : leafDiagnostic position leaf = none) : checkArgument leaf.1 leaf.2 = .ok () := by
  rw [leafDiagnostic] at silent
  split at silent
  next checked => exact checked
  next =>
    split at silent
    next => simp at silent
    next => simp at silent

theorem Rule.diagnostics_nil {source : String} {table : OperationTable} {rule : Rule}
    (silent : rule.diagnostics source table = []) : rule.Valid table := by
  rw [diagnostics] at silent
  obtain ⟨operations, leaves⟩ := List.append_eq_nil_iff.mp silent
  rw [List.filterMap_eq_nil_iff] at operations leaves
  constructor
  · exact fun name member => operationDiagnostic_none (operations name member)
  · intro guard guarded leaf member
    exact leafDiagnostic_none (leaves leaf (by simpa [guarded] using member))

namespace Policy

theorem validate_eq_ok {policy : Policy} {source : String} {table : OperationTable} :
    policy.validate source table = .ok () ↔ policy.diagnostics source table = [] := by
  rw [validate]
  split
  next silent => simp [silent]
  next complaint => simp [complaint]

theorem check_eq_ok {table : OperationTable} {source : String} {parameters : Bindings}
    {policy : Policy} : check table source parameters = .ok policy ↔
      Policy.parse source parameters = .ok policy ∧ policy.diagnostics source table = [] := by
  rw [check, Outcome.bind_eq_ok]
  constructor
  · rintro ⟨parsed, read, checked⟩
    obtain ⟨_, silent, same⟩ := Outcome.bind_eq_ok.mp checked
    obtain rfl : parsed = policy := Except.ok.inj same
    exact ⟨read, validate_eq_ok.mp silent⟩
  · rintro ⟨read, silent⟩
    exact ⟨policy, read, Outcome.bind_eq_ok.mpr ⟨⟨⟩, validate_eq_ok.mpr silent, rfl⟩⟩

theorem diagnostics_nil {policy : Policy} {source : String} {table : OperationTable}
    (silent : policy.diagnostics source table = []) : ∀ rule ∈ policy.rules, rule.Valid table := by
  rw [diagnostics] at silent
  have rules := (List.append_eq_nil_iff.mp silent).2
  rw [List.flatMap_eq_nil_iff] at rules
  exact fun rule member => Rule.diagnostics_nil (rules rule member)

end Policy

end SandboxPolicy
