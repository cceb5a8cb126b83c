import SandboxPolicy.OperationTable.Builtin
import SandboxPolicy.Policy.Diagnostics
import SandboxPolicy.Policy.Json
import SandboxPolicy.Proofs.PolicyPlaces

/-!
The JSON form of a policy. Reading it back gives the policy without its modifiers and places, so the
form tells everything else, and whatever is wrong with the policy.
-/

namespace SandboxPolicy

def Rule.plain (rule : Rule) : Rule := { rule with modifiers := .none, span := .zero }

def Policy.plain (policy : Policy) : Policy where
  version := policy.version
  versionSpan := .zero
  rules := policy.rules.map Rule.plain

theorem mapM_map_eq_some {α β γ : Type} {encode : α → β} {decode : β → Option γ} {change : α → γ}
    (decodes : ∀ item, decode (encode item) = some (change item)) (items : List α) :
    (items.map encode).mapM decode = some (items.map change) := by
  induction items with
  | nil => rfl
  | cons first items ih => simp [decodes, ih]

theorem Argument.ofJson_toJson (argument : Argument) : ofJson? argument.toJson = some argument := by
  cases argument <;> rfl

namespace Filter

theorem exists_toJson (item : Filter) : ∃ form body, item.toJson = .object [(form, body)] := by
  cases item <;> exact ⟨_, _, rfl⟩

mutual

theorem ofJson_toJson : (item : Filter) → ofJson? item.toJson = some item
  | .leaf name argument => by
      have read := argument.ofJson_toJson
      simp [toJson, ofJson?, leafOfJson?, Json.fields?, Json.member?, read]
  | .all items => by
      have inside := ofJson_toJsonItems items
      simp [toJson, ofJson?, inside]
  | .any items => by
      have inside := ofJson_toJsonItems items
      simp [toJson, ofJson?, inside]
  | .not item => by
      have inside := ofJson_toJson item
      obtain ⟨form, body, shape⟩ := item.exists_toJson
      rw [shape] at inside
      simp [toJson, shape, ofJson?, inside]

theorem ofJson_toJsonItems : (items : List Filter) →
    ofJsonItems? (toJsonItems items) = some items
  | [] => rfl
  | item :: rest => by simp [toJsonItems, ofJsonItems?, ofJson_toJson item, ofJson_toJsonItems rest]

end

end Filter

theorem textsOfJson_strings (texts : List String) :
    textsOfJson? (.strings texts) = some texts := by
  have read : textsOfJson? (.strings texts) = some (texts.map fun text => text) :=
    mapM_map_eq_some (fun _ => by rfl) texts
  rwa [List.map_id'] at read

theorem Action.ofName_name (action : Action) : ofName? action.name = some action := by
  cases action <;> decide

namespace Rule

theorem filterOfJson_ofOption (guard : Option Filter) :
    filterOfJson? (some (.ofOption Filter.toJson guard)) = some guard := by
  cases guard with
  | none => rfl
  | some item =>
      obtain ⟨form, body, shape⟩ := item.exists_toJson
      have read := item.ofJson_toJson
      rw [shape] at read
      rw [Json.ofOption, shape, filterOfJson?, read]
      · rfl
      · simp

theorem ofJson_toJson (rule : Rule) : ofJson? rule.toJson = some rule.plain := by
  have action := rule.action.ofName_name
  have operations := textsOfJson_strings rule.operations
  have guard := filterOfJson_ofOption rule.filter
  simp [ofJson?, toJson, Json.fields?, Json.member?, Json.constant?, action, operations, guard,
    plain]

theorem plain_eq_iff {rule rule' : Rule} : rule.plain = rule'.plain ↔
    rule.action = rule'.action ∧ rule.operations = rule'.operations ∧
      rule.filter = rule'.filter := by
  simp [plain]

theorem toJson_plain (rule : Rule) : rule.plain.toJson = rule.toJson := rfl

end Rule

namespace Policy

theorem versionOfJson_ofNat (version : UInt32) :
    versionOfJson? (.ofNat version.toNat) = some version := by
  have bound : version.toNat < 0x100000000 := version.toNat_lt
  simp [versionOfJson?, Json.ofNat, bound]

theorem ofJson_toJson (policy : Policy) : ofJson? policy.toJson = some policy.plain := by
  have version := versionOfJson_ofNat policy.version
  have rules := mapM_map_eq_some Rule.ofJson_toJson policy.rules
  simp [ofJson?, toJson, Json.fields?, Json.member?, version, rules, plain]

theorem toJson_plain (policy : Policy) : policy.plain.toJson = policy.toJson := by
  simp [toJson, plain, List.map_map, Function.comp_def, Rule.toJson_plain]

theorem toJson_eq_iff {policy other : Policy} :
    policy.toJson = other.toJson ↔ policy.plain = other.plain := by
  constructor
  · intro same
    have read := policy.ofJson_toJson
    rw [same, ofJson_toJson] at read
    exact (Option.some.inj read).symm
  · intro same
    rw [← toJson_plain policy, same, toJson_plain]

theorem plain_eq_iff {policy other : Policy} : policy.plain = other.plain ↔
    policy.version = other.version ∧
      List.Forall₂ (fun rule rule' => rule.action = rule'.action ∧
        rule.operations = rule'.operations ∧ rule.filter = rule'.filter)
        policy.rules other.rules := by
  simp only [plain, Policy.mk.injEq, true_and, ← Rule.plain_eq_iff]
  rw [← List.forall₂_eq_eq_eq, List.forall₂_map_left_iff, List.forall₂_map_right_iff]

end Policy

/-! Complaints. -/

theorem operationDiagnostic_placeless (table : OperationTable) (position : Position)
    (name : String) : (operationDiagnostic table position name).map PolicyError.placeless =
      operationDiagnostic table default name := by
  rw [operationDiagnostic, operationDiagnostic]
  split <;> rfl

theorem leafDiagnostic_placeless (position : Position) (leaf : String × Argument) :
    (leafDiagnostic position leaf).map PolicyError.placeless = leafDiagnostic default leaf := by
  rw [leafDiagnostic, leafDiagnostic]
  split
  next => rfl
  next => split <;> rfl

theorem Rule.diagnostics_placeless (source : String) (table : OperationTable) (rule : Rule) :
    (rule.diagnostics source table).map PolicyError.placeless =
      (rule.plain.diagnostics "" table).map PolicyError.placeless := by
  simp only [diagnostics, plain, List.map_append, List.map_filterMap,
    operationDiagnostic_placeless, leafDiagnostic_placeless]

namespace Policy

theorem versionDiagnostics_placeless (source : String) (policy : Policy) :
    (policy.versionDiagnostics source).map PolicyError.placeless =
      (policy.plain.versionDiagnostics "").map PolicyError.placeless := by
  rw [versionDiagnostics, versionDiagnostics, plain]
  split <;> rfl

theorem diagnostics_placeless (policy : Policy) (source : String) (table : OperationTable) :
    (policy.diagnostics source table).map PolicyError.placeless =
      (policy.plain.diagnostics "" table).map PolicyError.placeless := by
  rw [diagnostics, diagnostics, List.map_append, List.map_append, List.map_flatMap,
    List.map_flatMap, versionDiagnostics_placeless, plain, List.flatMap_map]
  simp only [Rule.diagnostics_placeless source]

/-- The form is read back as the policy without modifiers and places, so policies have one form just
when they have the same version and rules of the same actions, operations and filters. The same is
wrong with them then. -/
theorem toJson_exact (policy other : Policy) :
    ofJson? policy.toJson = some policy.plain ∧
    (policy.toJson = other.toJson ↔ policy.version = other.version ∧
      List.Forall₂ (fun rule rule' => rule.action = rule'.action ∧
        rule.operations = rule'.operations ∧ rule.filter = rule'.filter)
        policy.rules other.rules) ∧
    (policy.toJson = other.toJson → ∀ (table : OperationTable) (source source' : String),
      (policy.diagnostics source table).map PolicyError.placeless =
        (other.diagnostics source' table).map PolicyError.placeless) := by
  refine ⟨policy.ofJson_toJson, ?_, fun same table source source' => ?_⟩
  · rw [toJson_eq_iff]
    exact plain_eq_iff
  · rw [diagnostics_placeless policy, toJson_eq_iff.mp same, diagnostics_placeless other]

theorem toJson_exact_modifiers :
    (Policy.mk 9 ⟨0, 11⟩ [⟨.deny, ["nope"], some (.not (.any [.leaf "subpath" (.path "usr")])),
        ⟨true, false⟩, ⟨12, 69⟩⟩]).toJson =
      (Policy.mk 9 .zero [⟨.deny, ["nope"], some (.not (.any [.leaf "subpath" (.path "usr")])),
        .none, .zero⟩]).toJson ∧
    ((Policy.mk 9 ⟨0, 11⟩ [⟨.deny, ["nope"], some (.not (.any [.leaf "subpath" (.path "usr")])),
        ⟨true, false⟩, ⟨12, 69⟩⟩]).diagnostics "(version 9)\n" .macos).map PolicyError.placeless =
      ((Policy.mk 9 .zero [⟨.deny, ["nope"], some (.not (.any [.leaf "subpath" (.path "usr")])),
        .none, .zero⟩]).diagnostics "" .macos).map PolicyError.placeless :=
  ⟨rfl, (toJson_exact _ _).2.2 rfl .macos "(version 9)\n" ""⟩

end Policy

end SandboxPolicy
