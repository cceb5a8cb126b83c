import Mathlib
import SandboxPolicy.Proofs.Compiled

/-!
Compiling and evaluating together let the last rule decide that applies to an operation and whose
filter holds.
-/

namespace SandboxPolicy

structure Evaluator.Enforces (evaluator : Evaluator) (table : OperationTable)
    (bindings : Bindings) (profile : Nat) (policy : Policy) : Prop where
  unknown : ∀ request, table.resolve request.operation = none →
    evaluator.evaluate profile request = .error (.unknownOperation request.operation)
  decided : ∀ request slot, table.resolve request.operation = some slot →
    ∃ trace, evaluator.evaluate profile request =
      .ok ⟨policy.decide table (request.passes bindings) slot, slot, trace⟩

namespace Builder

variable {builder : Builder} {table : OperationTable} {evaluator : Evaluator}

theorem image_profile {index : Nat} {record : ProfileRecord}
    (found : builder.profiles.toList[index]? = some record) :
    ∃ placed, builder.image.profiles[index]? = some placed ∧
      placed.operations = record.operations := by
  have same := congrArg (·[index]?)
    (builder.image_map ProfileRecord.operations fun _ _ => rfl)
  simp only [List.getElem?_map, found, Option.map_some] at same
  exact Option.map_eq_some_iff.mp same

theorem Hosts.enforces (reads : builder.ReadBy evaluator) (graph : builder.Graph)
    (complete : evaluator.Complete) (known : evaluator.table = table) {index : Nat}
    {record : ProfileRecord} {given : Option String × Policy}
    (found : builder.profiles.toList[index]? = some record)
    (hosts : builder.Hosts table record given) :
    evaluator.Enforces table evaluator.bindings index given.2 := by
  obtain ⟨placed, inImage, operations⟩ := image_profile found
  rw [← reads.image_eq] at inImage
  subst known
  constructor
  · intro request unresolved
    exact (complete.exact index request).unknown placed inImage unresolved
  · intro request slot resolved
    obtain ⟨entry, enters, answers, _⟩ :=
      (complete.exact index request).resolved placed slot inImage resolved
    rw [operations] at enters
    have decides := hosts.1.decides slot entry enters (request.passes evaluator.bindings)
    obtain ⟨trace, last, walked, ends, settled⟩ := reads.concludes graph decides
    exact ⟨trace, (answers _).mpr (.settled rfl walked ends settled)⟩

end Builder

variable {table : OperationTable}

theorem Compiles.enforces {kind : ProfileKind} {added : List (Option String × Policy)}
    {bytes : List UInt8} (compiles : Compiles table kind added bytes) :
    ∃ evaluator, Evaluator.ofBytes bytes table = .ok evaluator ∧
      ∀ bindings index given, added[index]? = some given →
        (evaluator.under bindings).Enforces table bindings index given.2 := by
  obtain ⟨builder, graph, _, counted, hosted, finished⟩ := compiles
  obtain ⟨evaluator, accepted, known, reads⟩ := graph.readBy counted finished
  refine ⟨evaluator, accepted, ?_⟩
  intro bindings index given found
  have complete := (Evaluator.ofBytes_complete accepted).under bindings
  obtain ⟨bound, rfl⟩ := List.getElem?_eq_some_iff.mp found
  obtain ⟨length, each⟩ := List.forall₂_iff_get.mp hosted
  exact (each index (length ▸ bound) bound).enforces (reads.under bindings) graph complete known
    (List.getElem?_eq_getElem (length ▸ bound))

/-- A compiled policy is enforced: the last rule decides that applies and whose filter holds. -/
theorem compile_enforces {source : String} {parameters : Bindings} {profile : CompiledProfile}
    (compiled : compile table source parameters = .ok profile) :
    ∃ policy evaluator, Policy.parse source parameters = .ok policy ∧
      Evaluator.ofBytes profile.bytecode table = .ok evaluator ∧
      ∀ bindings, (evaluator.under bindings).Enforces table bindings 0 policy := by
  obtain ⟨_, policy, checked, compiles⟩ := compile_compiles compiled
  obtain ⟨evaluator, accepted, enforces⟩ := compiles.enforces
  refine ⟨policy, evaluator, (Policy.check_eq_ok.mp checked).1, accepted, ?_⟩
  exact fun bindings => enforces bindings 0 (none, policy) rfl

set_option maxRecDepth 100000 in
/-- Of two rules about one operation the last that holds decides. -/
theorem compile_enforces_last : ∃ profile policy evaluator,
    compile ⟨["default"], by decide, rfl, by decide⟩
      "(version 1) (allow default (subpath \"/a\")) (deny default (literal \"/a/b\"))" .empty =
        .ok profile ∧
    Policy.parse
      "(version 1) (allow default (subpath \"/a\")) (deny default (literal \"/a/b\"))" .empty =
        .ok policy ∧
    Evaluator.ofBytes profile.bytecode ⟨["default"], by decide, rfl, by decide⟩ = .ok evaluator ∧
    (∀ bindings, (evaluator.under bindings).Enforces ⟨["default"], by decide, rfl, by decide⟩
      bindings 0 policy) ∧
    (∃ trace, (evaluator.under .empty).evaluate 0 ⟨"default", some "/a/c", []⟩ =
      .ok ⟨⟨.allow, .none⟩, 0, trace⟩) ∧
    ∃ trace, (evaluator.under .empty).evaluate 0 ⟨"default", some "/a/b", []⟩ =
      .ok ⟨⟨.deny, .none⟩, 0, trace⟩ := by
  let table : OperationTable := ⟨["default"], by decide, rfl, by decide⟩
  let source := "(version 1) (allow default (subpath \"/a\")) (deny default (literal \"/a/b\"))"
  let written : Policy := ⟨1, ⟨0, 11⟩, [⟨.allow, ["default"],
    some (.leaf "subpath" (.path "/a")), .none, ⟨12, 42⟩⟩,
    ⟨.deny, ["default"], some (.leaf "literal" (.path "/a/b")), .none, ⟨43, 74⟩⟩]⟩
  have read : Policy.parse source .empty = .ok written := by cbv
  have succeeds : (compile table source .empty).isOk = true := by cbv
  obtain ⟨profile, compiled⟩ := Outcome.exists_of_isOk succeeds
  obtain ⟨policy, evaluator, parsed, accepted, enforces⟩ := compile_enforces compiled
  obtain rfl : policy = written := Except.ok.inj (parsed.symm.trans read)
  have below : written.decide table
      (Request.passes .empty ⟨"default", some "/a/c", []⟩) 0 = ⟨.allow, .none⟩ := by cbv
  have both : written.decide table
      (Request.passes .empty ⟨"default", some "/a/b", []⟩) 0 = ⟨.deny, .none⟩ := by cbv
  refine ⟨profile, written, evaluator, compiled, parsed, accepted, enforces, ?_, ?_⟩
  · exact below ▸ (enforces .empty).decided ⟨"default", some "/a/c", []⟩ 0 (by decide)
  · exact both ▸ (enforces .empty).decided ⟨"default", some "/a/b", []⟩ 0 (by decide)

end SandboxPolicy
