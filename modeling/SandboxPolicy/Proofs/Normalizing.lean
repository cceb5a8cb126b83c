import SandboxPolicy.Proofs.LiveRules

/-!
Filters that are rewritten. Negation changes the two places of a filter around and combinations
pass them on, so the laws of negation and of nested combinations hold step by step: what is lowered,
and in which order, stays as it is.
-/

namespace SandboxPolicy

open Steps

inductive Filter.Rewrites : Filter → Filter → Prop
  | notNot (item : Filter) : Rewrites (.not (.not item)) item
  | notAll (items : List Filter) : Rewrites (.not (.all items)) (.any (items.map .not))
  | notAny (items : List Filter) : Rewrites (.not (.any items)) (.all (items.map .not))
  | allInAll (before inner after : List Filter) :
      Rewrites (.all (before ++ .all inner :: after)) (.all (before ++ inner ++ after))
  | anyInAny (before inner after : List Filter) :
      Rewrites (.any (before ++ .any inner :: after)) (.any (before ++ inner ++ after))
  | allOne (item : Filter) : Rewrites (.all [item]) item
  | anyOne (item : Filter) : Rewrites (.any [item]) item
  | inNot {item other : Filter} : Rewrites item other → Rewrites (.not item) (.not other)
  | inAll {before after : List Filter} {item other : Filter} : Rewrites item other →
      Rewrites (.all (before ++ item :: after)) (.all (before ++ other :: after))
  | inAny {before after : List Filter} {item other : Filter} : Rewrites item other →
      Rewrites (.any (before ++ item :: after)) (.any (before ++ other :: after))

/-- The rules have the same verdict and operations, and their filters come from each other by
rewriting back and forth. -/
structure Rule.Restates (rule other : Rule) : Prop where
  verdict_eq : rule.verdict = other.verdict
  operations_eq : rule.operations = other.operations
  filter : Option.Rel (Relation.EqvGen Filter.Rewrites) rule.filter other.filter

def Policy.Restates (policy other : Policy) : Prop :=
  List.Forall₂ Rule.Restates policy.rules other.rules

namespace Lower

variable {table : OperationTable} {onMatch onUnmatch : UInt16}

/-! One filter. -/

theorem allOf_append (before after : List Filter) :
    allOf onMatch onUnmatch (before ++ after) =
      allOf onMatch onUnmatch after >>= fun next => allOf next onUnmatch before := by
  induction before with
  | nil => simp [allOf]
  | cons item before ih => simp only [List.cons_append, allOf, ih, bind_assoc]

theorem anyOf_append (before after : List Filter) :
    anyOf onMatch onUnmatch (before ++ after) =
      anyOf onMatch onUnmatch after >>= fun next => anyOf onMatch next before := by
  induction before with
  | nil => simp [anyOf]
  | cons item before ih => simp only [List.cons_append, anyOf, ih, bind_assoc]

theorem anyOf_not (items : List Filter) :
    anyOf onMatch onUnmatch (items.map .not) = allOf onUnmatch onMatch items := by
  induction items with
  | nil => rfl
  | cons item items ih => simp only [List.map_cons, anyOf, allOf, filter, ih]

theorem allOf_not (items : List Filter) :
    allOf onMatch onUnmatch (items.map .not) = anyOf onUnmatch onMatch items := by
  induction items with
  | nil => rfl
  | cons item items ih => simp only [List.map_cons, anyOf, allOf, filter, ih]

theorem filter_rewritten {guard other : Filter} (rewrites : guard.Rewrites other)
    (onMatch onUnmatch : UInt16) :
    filter onMatch onUnmatch guard = filter onMatch onUnmatch other := by
  induction rewrites generalizing onMatch onUnmatch with
  | notNot item => rw [filter, filter]
  | notAll items => rw [filter, filter, filter, anyOf_not]
  | notAny items => rw [filter, filter, filter, allOf_not]
  | allInAll before inner after =>
      rw [filter, filter, List.append_assoc, allOf_append, allOf_append, allOf_append, bind_assoc,
        allOf, bind_assoc]
      simp only [filter]
  | anyInAny before inner after =>
      rw [filter, filter, List.append_assoc, anyOf_append, anyOf_append, anyOf_append, bind_assoc,
        anyOf, bind_assoc]
      simp only [filter]
  | allOne item => rw [filter, allOf, allOf, pure_bind]
  | anyOne item => rw [filter, anyOf, anyOf, pure_bind]
  | inNot _ ih => rw [filter, filter, ih]
  | inAll _ ih =>
      rw [filter, filter, allOf_append, allOf_append, allOf, allOf]
      simp only [ih]
  | inAny _ ih =>
      rw [filter, filter, anyOf_append, anyOf_append, anyOf, anyOf]
      simp only [ih]

def SameSteps (guard other : Filter) : Prop :=
  ∀ onMatch onUnmatch, filter onMatch onUnmatch guard = filter onMatch onUnmatch other

theorem sameSteps_of_eqvGen {guard other : Filter}
    (changed : Relation.EqvGen Filter.Rewrites guard other) : SameSteps guard other := by
  intro onMatch onUnmatch
  apply eq_of_eqvGen (filter onMatch onUnmatch) _ changed
  exact fun guard other rewrites => filter_rewritten rewrites onMatch onUnmatch

/-! Chains. -/

def SameTests (tests others : List (Filter × Verdict)) : Prop :=
  List.Forall₂ (fun test other => SameSteps test.1 other.1 ∧ test.2 = other.2) tests others

theorem tests_eq {guarded others : List (Filter × Verdict)} (same : SameTests guarded others)
    (entry : UInt16) : tests entry guarded = tests entry others := by
  induction same generalizing entry with
  | nil => rfl
  | @cons first other rest rests alike _ ih =>
      obtain ⟨steps, verdict⟩ := alike
      rw [tests, tests, verdict]
      simp only [steps _ _, ih]

theorem ofRules_restated {rules others : List Rule}
    (restated : List.Forall₂ Rule.Restates rules others) :
    (Chain.ofRules rules).base = (Chain.ofRules others).base ∧
      SameTests (Chain.ofRules rules).tests (Chain.ofRules others).tests := by
  -- From the end, as the last rule says whether those before it count.
  rw [← List.reverse_reverse rules, ← List.reverse_reverse others]
  have reversed := List.rel_reverse restated
  generalize rules.reverse = rules, others.reverse = others at reversed
  induction reversed with
  | nil => exact ⟨rfl, .nil⟩
  | @cons rule other rules others first _ ih =>
      obtain ⟨verdict, _, filters⟩ := first
      rw [List.reverse_cons, List.reverse_cons]
      generalize guarded : rule.filter = guard, guarded' : other.filter = guard' at filters
      cases filters with
      | none =>
          rw [Chain.ofRules_concat_none _ guarded, Chain.ofRules_concat_none _ guarded']
          exact ⟨verdict, .nil⟩
      | some changed =>
          rw [Chain.ofRules_concat_some _ guarded, Chain.ofRules_concat_some _ guarded']
          have last := And.intro (sameSteps_of_eqvGen changed) verdict
          exact ⟨ih.1, List.rel_append ih.2 (.cons last .nil)⟩

theorem chain_restated {rules others : List Rule}
    (restated : List.Forall₂ Rule.Restates rules others) :
    chain (.ofRules rules) = chain (.ofRules others) := by
  obtain ⟨base, same⟩ := ofRules_restated restated
  rw [chain, chain, base]
  simp only [tests_eq same]

/-! Policies. -/

variable {rules others : List (List Nat × Rule)}

def RestatedAt (rules others : List (List Nat × Rule)) : Prop :=
  List.Forall₂ (fun entry other => entry.1 = other.1 ∧ entry.2.Restates other.2) rules others

theorem RestatedAt.coveringRules_eq (restated : RestatedAt rules others) (slot : Nat) :
    coveringRules table slot rules = coveringRules table slot others := by
  simp only [coveringRules]
  generalize 0 = number
  induction restated generalizing number with
  | nil => rfl
  | @cons entry other _ _ first _ ih =>
      rw [List.zipIdx_cons, List.zipIdx_cons, List.filter_cons, List.filter_cons, first.1]
      split
      · rw [List.map_cons, List.map_cons, ih]
      · exact ih (number + 1)

theorem RestatedAt.chainAt_eq (restated : RestatedAt rules others) (slot : Nat) :
    chainAt table rules slot = chainAt table others slot := by
  rw [chainAt, chainAt, rulesAt_coveringRules, rulesAt_coveringRules]
  apply chain_restated
  have covers : RestatedAt
      (rules.filter fun entry => entry.1.any fun ruleSlot => table.covers ruleSlot slot)
      (others.filter fun entry => entry.1.any fun ruleSlot => table.covers ruleSlot slot) := by
    refine List.rel_filter (fun entry other same => ?_) restated
    dsimp only
    rw [same.1]
  rw [List.forall₂_map_left_iff, List.forall₂_map_right_iff]
  exact covers.imp fun entry other same => same.2

theorem RestatedAt.slots_eq (restated : RestatedAt rules others) (memory : ChainMemory)
    (numbers : List Nat) :
    slots table rules memory numbers = slots table others memory numbers := by
  induction numbers generalizing memory with
  | nil => rfl
  | cons number numbers ih =>
      have chains : chainAt table rules number = chainAt table others number :=
        restated.chainAt_eq number
      rw [chainAt, chainAt, restated.coveringRules_eq] at chains
      simp only [slots, slot, ih, chains, restated.coveringRules_eq]

theorem mapM_slots_restated {rules others : List Rule}
    (restated : List.Forall₂ Rule.Restates rules others) :
    (∃ error, (rules.mapM fun rule => return (← rule.slots table, rule)) =
        (.error error : Except CompileError _) ∧
      (others.mapM fun rule => return (← rule.slots table, rule)) =
        (.error error : Except CompileError _)) ∨
    ∃ resolved resolved', (rules.mapM fun rule => return (← rule.slots table, rule)) =
        (.ok resolved : Except CompileError _) ∧
      (others.mapM fun rule => return (← rule.slots table, rule)) =
        (.ok resolved' : Except CompileError _) ∧ RestatedAt resolved resolved' := by
  induction restated with
  | nil => exact .inr ⟨[], [], rfl, rfl, .nil⟩
  | @cons rule other rules others first _ ih =>
      have same : rule.slots table = other.slots table := by
        rw [Rule.slots, Rule.slots, first.operations_eq]
      rw [List.mapM_cons, List.mapM_cons, same]
      cases other.slots table with
      | error error => exact .inl ⟨error, rfl, rfl⟩
      | ok found =>
          rcases ih with ⟨error, failed, failed'⟩ | ⟨resolved, resolved', done, done', restated⟩
          · exact .inl ⟨error, by rw [failed]; rfl, by rw [failed']; rfl⟩
          · exact .inr ⟨(found, rule) :: resolved, (found, other) :: resolved',
              by rw [done]; rfl, by rw [done']; rfl, .cons ⟨rfl, first⟩ restated⟩

end Lower

variable {policy other : Policy}

theorem Policy.Restates.lower_eq (restates : policy.Restates other) (table : OperationTable) :
    policy.lower table = other.lower table := by
  rw [lower, lower]
  rcases Lower.mapM_slots_restated restates with
    ⟨error, failed, failed'⟩ | ⟨resolved, resolved', done, done', restated⟩
  · rw [failed, failed']
  · rw [done, done']
    exact restated.slots_eq ∅ _

/-- Policies that differ in the writing of their filters compile to the same bytes, or overflow the
same table. -/
theorem compile_eq_of_restated (restates : policy.Restates other) :
    (∀ table name builder, finished (addPolicy table name policy) builder =
      finished (addPolicy table name other) builder) ∧
    (∀ table kind name builder, (∀ rule ∈ policy.rules, rule.Valid table) →
      Builder.start kind table.size = .ok builder →
      CompilesOrOverflows (finished (addPolicy table name policy) builder)) ∧
    ∀ table parameters parameters' source source',
      Policy.check table source parameters = .ok policy →
      Policy.check table source' parameters' = .ok other →
      compile table source parameters = compile table source' parameters' ∧
        CompilesOrOverflows (compile table source parameters) := by
  have added (table : OperationTable) (name : Option String) :
      addPolicy table name policy = addPolicy table name other := by
    rw [addPolicy, addPolicy, restates.lower_eq]
  refine ⟨fun table name builder => by rw [added], ?_, ?_⟩
  · intro table kind name builder valid started
    exact finished_addPolicy valid started name
  · intro table parameters parameters' source source' checked checked'
    obtain ⟨builder, started⟩ := exists_start table .single
    refine ⟨?_, compile_of_check checked⟩
    rw [compile_eq_finished checked started, compile_eq_finished checked' started, added]

set_option maxRecDepth 100000 in
theorem compile_eq_of_restated_not_any :
    compile ⟨["default"], by decide, rfl, by decide⟩
        "(version 1) (deny default (require-not (require-any (literal \"/a\"))))" .empty =
      compile ⟨["default"], by decide, rfl, by decide⟩
        "(version 1) (deny default (require-not (literal \"/a\")))" .empty ∧
    CompilesOrOverflows (compile ⟨["default"], by decide, rfl, by decide⟩
      "(version 1) (deny default (require-not (require-any (literal \"/a\"))))" .empty) := by
  let leaf : Filter := .leaf "literal" (.path "/a")
  have checked : Policy.check ⟨["default"], by decide, rfl, by decide⟩
      "(version 1) (deny default (require-not (require-any (literal \"/a\"))))" .empty =
        .ok ⟨1, ⟨0, 11⟩, [⟨.deny, ["default"],
          some (.not (.any [.leaf "literal" (.path "/a")])), .none, ⟨12, 69⟩⟩]⟩ := by cbv
  have checked' : Policy.check ⟨["default"], by decide, rfl, by decide⟩
      "(version 1) (deny default (require-not (literal \"/a\")))" .empty =
        .ok ⟨1, ⟨0, 11⟩, [⟨.deny, ["default"],
          some (.not (.leaf "literal" (.path "/a"))), .none, ⟨12, 55⟩⟩]⟩ := by cbv
  have changed : Relation.EqvGen Filter.Rewrites (.not (.any [leaf])) (.not leaf) :=
    .trans _ (.all [.not leaf]) _ (.rel _ _ (.notAny [leaf])) (.rel _ _ (.allOne (.not leaf)))
  have restates : Policy.Restates
      ⟨1, ⟨0, 11⟩, [⟨.deny, ["default"], some (.not (.any [leaf])), .none, ⟨12, 69⟩⟩]⟩
      ⟨1, ⟨0, 11⟩, [⟨.deny, ["default"], some (.not leaf), .none, ⟨12, 55⟩⟩]⟩ :=
    .cons ⟨rfl, rfl, .some changed⟩ .nil
  exact (compile_eq_of_restated restates).2.2 _ _ _ _ _ checked checked'

end SandboxPolicy
