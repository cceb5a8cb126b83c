import SandboxPolicy.Proofs.LiveRules
import SandboxPolicy.Proofs.NodeCosts

/-!
How many nodes a policy needs: one for each of its verdicts, and one for each leaf of the rules that
are alive together. Slots of which the same rules are alive need no more than one of them.
-/

namespace SandboxPolicy

open Steps

/-! When filters are equal. -/

mutual

def Filter.decEq : (first second : Filter) → Decidable (first = second)
  | .leaf name argument, second =>
      match second with
      | .leaf name' argument' =>
          decidable_of_iff (name = name' ∧ argument = argument') (by simp)
      | .all _ | .any _ | .not _ => .isFalse (by simp)
  | .all items, second =>
      match second with
      | .all items' =>
          have := Filter.decEqItems items items'
          decidable_of_iff (items = items') (by simp)
      | .leaf _ _ | .any _ | .not _ => .isFalse (by simp)
  | .any items, second =>
      match second with
      | .any items' =>
          have := Filter.decEqItems items items'
          decidable_of_iff (items = items') (by simp)
      | .leaf _ _ | .all _ | .not _ => .isFalse (by simp)
  | .not item, second =>
      match second with
      | .not item' =>
          have := Filter.decEq item item'
          decidable_of_iff (item = item') (by simp)
      | .leaf _ _ | .all _ | .any _ => .isFalse (by simp)

def Filter.decEqItems : (first second : List Filter) → Decidable (first = second)
  | [], [] => .isTrue rfl
  | [], _ :: _ | _ :: _, [] => .isFalse (by simp)
  | item :: items, item' :: items' =>
      have := Filter.decEq item item'
      have := Filter.decEqItems items items'
      decidable_of_iff (item = item' ∧ items = items') (by simp)

end

instance : DecidableEq Filter := Filter.decEq

deriving instance DecidableEq for Rule

/-! What is alive at a slot. -/

/-- The verdict of the last rule without a filter, or denial if there is none, and the rules after
it. -/
structure Live where
  base : Verdict
  rules : List Rule
deriving DecidableEq

namespace Live

def ofRules (rules : List Rule) : Live where
  base := ((rules.reverse.find? fun rule => rule.filter.isNone).map Rule.verdict).getD .denial
  rules := (rules.reverse.takeWhile fun rule => rule.filter.isSome).reverse

def leafCount (live : Live) : Nat :=
  (live.rules.map fun rule => ((rule.filter.map Filter.leaves).getD []).length).sum

def chain (live : Live) : Chain := ⟨live.base, live.rules.filterMap Rule.test?⟩

theorem chain_ofRules (rules : List Rule) : (ofRules rules).chain = Chain.ofRules rules := rfl

variable {live : Live} {verdicts : Finset Verdict}

theorem leafCount_eq (live : Live) :
    (live.chain.tests.flatMap fun item => item.1.leaves).length = live.leafCount := by
  obtain ⟨base, rules⟩ := live
  simp only [chain, leafCount]
  induction rules with
  | nil => rfl
  | cons rule rules ih =>
      rw [List.map_cons, List.sum_cons, ← ih]
      cases guarded : rule.filter <;> simp [Rule.test?, guarded]

structure Known (verdicts : Finset Verdict) (live : Live) : Prop where
  base : live.base ∈ verdicts
  rules : ∀ rule ∈ live.rules, rule.verdict ∈ verdicts

theorem Known.chain_spends (known : live.Known verdicts) :
    Spends verdicts live.leafCount (Lower.chain live.chain) := by
  rw [← live.leafCount_eq]
  refine Lower.chain_spends known.base fun item member => ?_
  obtain ⟨rule, listed, tested⟩ := List.mem_filterMap.mp member
  obtain ⟨guard, _, rfl⟩ := Option.map_eq_some_iff.mp tested
  exact known.rules rule listed

theorem ofRules_known {rules : List Rule} (denial : .denial ∈ verdicts)
    (inside : ∀ rule ∈ rules, rule.verdict ∈ verdicts) : (ofRules rules).Known verdicts := by
  constructor
  · cases found : rules.reverse.find? fun rule => rule.filter.isNone with
    | none => simpa [ofRules, found] using denial
    | some rule =>
        have listed := List.mem_reverse.mp (List.mem_of_find?_eq_some found)
        simpa [ofRules, found] using inside rule listed
  · intro rule member
    have taken := List.takeWhile_subset _ (List.mem_reverse.mp member)
    exact inside rule (List.mem_reverse.mp taken)

end Live

/-! Policies. -/

namespace Policy

def verdicts (policy : Policy) : Finset Verdict :=
  insert .denial (policy.rules.map Rule.verdict).toFinset

def lives (table : OperationTable) (policy : Policy) : Finset Live :=
  ((List.range table.size).map fun slot => Live.ofRules (policy.covering table slot)).toFinset

/-- A node for each verdict, and one for each leaf of what is alive together at some slot. -/
def nodeBudget (table : OperationTable) (policy : Policy) : Nat :=
  policy.verdicts.card + ∑ live ∈ policy.lives table, live.leafCount

end Policy

/-! Chains one after the other. -/

variable {verdicts : Finset Verdict} {spent : Nat} {builder middle : Builder} {lives : List Live}
  {seen : Finset Live}

theorem Ends.then_pure {α β : Type} {step : Lower α} (change : α → β)
    (ends : Ends verdicts spent builder (step middle)) :
    Ends verdicts spent builder ((step >>= fun value => pure (change value)) middle) := by
  rw [bind_apply]
  cases done : step middle with
  | ok value after =>
      rw [done] at ends
      exact ⟨ends.calls, ends.within, fun error after failed => by cases failed⟩
  | error error after =>
      rw [done] at ends
      exact ends.failed

theorem Lower.chains_end (known : ∀ live ∈ lives, live.Known verdicts) (sound : builder.Sound)
    (within : Within verdicts (∑ live ∈ seen, live.leafCount) builder.nodeList)
    (repeats : ∀ live ∈ seen, ∃ entry, builder.Repeats (Lower.chain live.chain) entry) :
    Ends verdicts (∑ live ∈ seen ∪ lives.toFinset, live.leafCount) builder
      ((lives.map Live.chain).mapM Lower.chain builder) := by
  induction lives generalizing seen builder with
  | nil =>
      rw [List.toFinset_nil, Finset.union_empty]
      exact ⟨⟨[], rfl⟩, within, fun error after failed => by cases failed⟩
  | cons live lives ih =>
      have others : ∀ live ∈ lives, live.Known verdicts :=
        fun other member => known other (List.mem_cons_of_mem _ member)
      rw [List.map_cons, List.mapM_cons, List.toFinset_cons]
      by_cases old : live ∈ seen
      · -- It has been lowered, and lowering it again changes nothing.
        obtain ⟨entry, again⟩ := repeats live old
        rw [bind_of_ok (again builder sound (.refl builder)),
          Finset.union_insert, Finset.insert_eq_of_mem (Finset.mem_union_left _ old)]
        exact (ih others sound within repeats).then_pure _
      · have spends := (known live List.mem_cons_self).chain_spends
        have lowered := spends builder _ sound within
        have sum : ∑ other ∈ insert live seen, other.leafCount =
            ∑ other ∈ seen, other.leafCount + live.leafCount := by
          rw [Finset.sum_insert old, Nat.add_comm]
        have all : seen ∪ insert live lives.toFinset = insert live seen ∪ lives.toFinset := by
          rw [Finset.union_insert, Finset.insert_union]
        rw [← sum] at lowered
        rw [all, bind_apply]
        cases done : Lower.chain live.chain builder with
        | error error after =>
            have fewer : ∑ other ∈ insert live seen, other.leafCount ≤
                ∑ other ∈ insert live seen ∪ lives.toFinset, other.leafCount :=
              Finset.sum_le_sum_of_subset Finset.subset_union_left
            rw [done] at lowered
            exact lowered.failed.mono fewer
        | ok entry middle =>
            rw [done] at lowered
            obtain ⟨calls, reached⟩ := lowered.calls
            obtain ⟨advanced, again⟩ :=
              Lower.chain_repeatable _ builder entry middle sound done
            refine ((ih others advanced.sound lowered.within ?_).then_pure _).after reached
            intro other member
            rcases Finset.mem_insert.mp member with rfl | earlier
            · exact ⟨entry, again⟩
            · obtain ⟨entry', again'⟩ := repeats other earlier
              exact ⟨entry', again'.grow advanced.grows⟩

theorem Builder.start_nodeList {kind : ProfileKind} {operationCount : Nat}
    (started : Builder.start kind operationCount = .ok builder) : builder.nodeList = [] := by
  rw [Builder.start] at started
  split at started
  · cases started
    simp [Builder.nodeList, Interner.empty]
  · cases started

theorem Builder.addProfile_not_full {name : Option String} {operations : List UInt16}
    {error : BytecodeError} {after : Builder}
    (failed : addProfile name operations builder = .error error after) :
    ¬(CompileError.bytecode error).NodesFull := by
  rintro ⟨count, limit, full⟩
  obtain rfl := CompileError.bytecode.inj full
  rw [addProfile_apply] at failed
  by_cases wrong : operations.length ≠ builder.operationCount.toNat
  · simp [wrong] at failed
  · rw [if_neg wrong] at failed
    cases kindEq : builder.kind with
    | single =>
        simp only [kindEq] at failed
        split at failed
        · cases failed
        · simp at failed
    | collection =>
        simp only [kindEq] at failed
        cases stored : text (name.getD "") builder with
        | ok place middle => simp [stored] at failed
        | error found middle =>
            simp only [stored, EStateM.Result.error.injEq] at failed
            exact Lower.text_not_full _ _ _ _ stored (failed.1 ▸ ⟨count, limit, rfl⟩)

theorem Builder.Sound.finish_not_full (sound : builder.Sound) {error : BytecodeError}
    (failed : builder.finish = .error error) : ¬(CompileError.bytecode error).NodesFull := by
  rintro ⟨count, limit, full⟩
  obtain rfl := CompileError.bytecode.inj full
  rw [sound.finish_eq] at failed
  split_ifs at failed
  · simp at failed
  · simp at failed

namespace Policy

variable {table : OperationTable} {policy : Policy}

theorem lower_ends {kind : ProfileKind} (valid : ∀ rule ∈ policy.rules, rule.Valid table)
    (started : Builder.start kind table.size = .ok builder) :
    Ends policy.verdicts (∑ live ∈ policy.lives table, live.leafCount) builder
      (policy.lower table builder) := by
  have sound := Builder.start_sound started
  have fresh := Builder.start_nodeList started
  have known : ∀ live ∈ (List.range table.size).map fun slot =>
      Live.ofRules (policy.covering table slot), live.Known policy.verdicts := by
    intro live member
    obtain ⟨slot, _, rfl⟩ := List.mem_map.mp member
    refine Live.ofRules_known (Finset.mem_insert_self _ _) fun rule inside => ?_
    refine Finset.mem_insert_of_mem (List.mem_toFinset.mpr (List.mem_map_of_mem ?_))
    exact List.mem_of_mem_filter inside
  have within : Within policy.verdicts (∑ live ∈ (∅ : Finset Live), live.leafCount)
      builder.nodeList := by
    rw [fresh]
    exact .nil _ _
  have ends := Lower.chains_end known sound within (by simp)
  have chains : (Live.chain ∘ fun slot => Live.ofRules (policy.covering table slot)) =
      fun slot => Chain.ofRules (policy.covering table slot) :=
    funext fun slot => Live.chain_ofRules _
  rw [Finset.empty_union, List.map_map, chains] at ends
  rw [lower_eq_mapM valid sound]
  exact ends

theorem lower_within_budget {kind : ProfileKind}
    (valid : ∀ rule ∈ policy.rules, rule.Valid table)
    (started : Builder.start kind table.size = .ok builder) :
    ∃ calls, ended (policy.lower table builder) = (builder.run calls).2 ∧
      ∀ earlier, earlier <+: calls →
        (builder.run earlier).2.nodeList.length ≤ policy.nodeBudget table := by
  have sound := Builder.start_sound started
  have ends := lower_ends valid started
  obtain ⟨calls, reached⟩ := ends.calls
  refine ⟨calls, reached, ?_⟩
  rintro earlier ⟨later, rfl⟩
  -- Nodes are never taken away, so it is enough to count them at the end.
  have soon := Builder.run_follows sound earlier
  have grown := (Builder.run_follows soon.sound later).grows.nodes.length_le
  have last := ends.within.length_le (ends.sound sound).nodes.distinct
  rw [reached, Builder.run_append] at last
  exact grown.trans last

theorem addPolicy_not_full {kind : ProfileKind} {name : Option String} {error : CompileError}
    {after : Builder} (valid : ∀ rule ∈ policy.rules, rule.Valid table)
    (started : Builder.start kind table.size = .ok builder)
    (small : policy.nodeBudget table ≤ 255)
    (failed : addPolicy table name policy builder = .error error after) : ¬error.NodesFull := by
  intro full
  rcases bind_eq_error.mp failed with lowering | ⟨entries, middle, lowered, adding⟩
  · have large := (lower_ends valid started).full error after lowering full
    rw [nodeBudget] at small
    rw [Builder.nodeLimit] at large
    omega
  · obtain ⟨fault, broken, rfl⟩ := adaptExcept_eq_error.mp adding
    exact Builder.addProfile_not_full broken full

end Policy

/-- While a policy is lowered, the builder has at most a node for each verdict and for each leaf of
what is alive together; so a policy for which this is not too much does not fill it. -/
theorem compile_within_budget {table : OperationTable} {source : String} {parameters : Bindings}
    {policy : Policy} (checked : Policy.check table source parameters = .ok policy) :
    (∀ kind builder, Builder.start kind table.size = .ok builder →
      ∃ calls, ended (policy.lower table builder) = (builder.run calls).2 ∧
        ∀ earlier, earlier <+: calls →
          (builder.run earlier).2.nodeList.length ≤ policy.nodeBudget table) ∧
    (policy.nodeBudget table ≤ 255 → ∀ count limit, compile table source parameters ≠
      .error (.bytecode (.overflow "operation entries" count limit))) := by
  have valid := Policy.diagnostics_nil (Policy.check_eq_ok.mp checked).2
  refine ⟨fun kind builder started => Policy.lower_within_budget valid started, ?_⟩
  intro small count limit overflows
  obtain ⟨builder, started⟩ := exists_start table .single
  rw [compile_eq_finished checked started, finished, EStateM.run] at overflows
  cases done : addPolicy table none policy builder with
  | error error after =>
      rw [done] at overflows
      cases overflows
      exact Policy.addPolicy_not_full valid started small done ⟨count, limit, rfl⟩
  | ok _ after =>
      rw [done] at overflows
      have sound := (addPolicy_gains valid (Builder.start_graph started) done).graph.sound
      cases finish : after.finish with
      | ok bytecode => simp [finish] at overflows
      | error error =>
          simp only [finish, Except.error.injEq] at overflows
          exact sound.finish_not_full finish ⟨count, limit, overflows⟩

set_option maxRecDepth 100000 in
theorem compile_within_budget_shared : ∃ policy,
    Policy.check ⟨["default", "signal"], by decide, rfl, by decide⟩
      "(version 1) (allow default (require-any (literal \"/a\") (literal \"/b\")))" .empty =
        .ok policy ∧
    policy.nodeBudget ⟨["default", "signal"], by decide, rfl, by decide⟩ = 4 ∧
    ∀ count limit, compile ⟨["default", "signal"], by decide, rfl, by decide⟩
      "(version 1) (allow default (require-any (literal \"/a\") (literal \"/b\")))" .empty ≠
        .error (.bytecode (.overflow "operation entries" count limit)) := by
  let policy : Policy := ⟨1, ⟨0, 11⟩, [⟨.allow, ["default"],
    some (.any [.leaf "literal" (.path "/a"), .leaf "literal" (.path "/b")]), .none, ⟨12, 71⟩⟩]⟩
  have checked : Policy.check ⟨["default", "signal"], by decide, rfl, by decide⟩
      "(version 1) (allow default (require-any (literal \"/a\") (literal \"/b\")))" .empty =
        .ok ⟨1, ⟨0, 11⟩, [⟨.allow, ["default"],
          some (.any [.leaf "literal" (.path "/a"), .leaf "literal" (.path "/b")]), .none,
          ⟨12, 71⟩⟩]⟩ := by cbv
  have budget : policy.nodeBudget ⟨["default", "signal"], by decide, rfl, by decide⟩ = 4 := by
    decide +kernel
  refine ⟨policy, checked, budget, (compile_within_budget checked).2 ?_⟩
  exact budget.le.trans (by decide)

end SandboxPolicy
