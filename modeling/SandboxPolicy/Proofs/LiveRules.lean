import SandboxPolicy.Proofs.Coverage
import SandboxPolicy.Proofs.Repeating

/-!
What compiling a policy depends on: for each slot the last rule without a filter that applies to
it, and the tests of the rules after that one. Policies that agree in this compile to the same
bytes, and so do policies that differ in rules or names without effect.
-/

namespace SandboxPolicy

open Steps

variable {table : OperationTable}

def Rule.test? (rule : Rule) : Option (Filter × Verdict) :=
  rule.filter.map fun guard => (guard, rule.verdict)

/-- What is alive of some rules: the verdict of the last one without a filter, or denial if each
has one, and in order the filters and verdicts of the rules after it. -/
inductive LiveView (rules : List Rule) : Chain → Prop
  | guarded (each : ∀ rule ∈ rules, rule.filter ≠ none) :
      LiveView rules ⟨.denial, rules.filterMap Rule.test?⟩
  | settled {before after : List Rule} {rule : Rule} (split : rules = before ++ rule :: after)
      (free : rule.filter = none) (each : ∀ later ∈ after, later.filter ≠ none) :
      LiveView rules ⟨rule.verdict, after.filterMap Rule.test?⟩

def Policy.covering (table : OperationTable) (slot : Nat) (policy : Policy) : List Rule :=
  policy.rules.filter (Rule.appliesTo table slot)

def Policy.SameLive (table : OperationTable) (policy other : Policy) : Prop :=
  ∀ slot < table.size, ∃ view,
    LiveView (policy.covering table slot) view ∧ LiveView (other.covering table slot) view

/-! The chain of some rules is what is alive of them. -/

theorem exists_last_free (rules : List Rule) : (∀ rule ∈ rules, rule.filter ≠ none) ∨
    ∃ before rule after, rules = before ++ rule :: after ∧ rule.filter = none ∧
      ∀ later ∈ after, later.filter ≠ none := by
  induction rules using List.reverseRecOn with
  | nil => exact .inl (by simp)
  | append_singleton rules last ih =>
      by_cases free : last.filter = none
      · exact .inr ⟨rules, last, [], rfl, free, by simp⟩
      · rcases ih with each | ⟨before, rule, after, rfl, freed, each⟩
        · refine .inl fun rule member => ?_
          rcases List.mem_append.mp member with early | isLast
          · exact each rule early
          · exact List.mem_singleton.mp isLast ▸ free
        · refine .inr ⟨before, rule, after ++ [last], by simp, freed, fun later member => ?_⟩
          rcases List.mem_append.mp member with early | isLast
          · exact each later early
          · exact List.mem_singleton.mp isLast ▸ free

namespace Chain

variable {rules before after : List Rule} {rule : Rule}

theorem ofRules_append_guarded (rules : List Rule) (each : ∀ rule ∈ after, rule.filter ≠ none) :
    ofRules (rules ++ after) =
      ⟨(ofRules rules).base, (ofRules rules).tests ++ after.filterMap Rule.test?⟩ := by
  induction after using List.reverseRecOn with
  | nil => simp
  | append_singleton after last ih =>
      obtain ⟨guard, guarded⟩ := Option.ne_none_iff_exists'.mp (each last (by simp))
      have tested : last.test? = some (guard, last.verdict) := by rw [Rule.test?, guarded]; rfl
      rw [← List.append_assoc, ofRules_concat_some _ guarded,
        ih fun rule member => each rule (List.mem_append_left _ member)]
      simp [tested]

theorem ofRules_append_free (before : List Rule) (free : rule.filter = none)
    (each : ∀ later ∈ after, later.filter ≠ none) :
    ofRules (before ++ rule :: after) = ⟨rule.verdict, after.filterMap Rule.test?⟩ := by
  rw [List.append_cons, ofRules_append_guarded _ each, ofRules_concat_none before free,
    List.nil_append]

theorem liveView_iff {chain : Chain} : LiveView rules chain ↔ chain = ofRules rules := by
  constructor
  · intro view
    cases view with
    | guarded each => exact (ofRules_append_guarded [] each).symm
    | settled split free each => rw [split, ofRules_append_free _ free each]
  · rintro rfl
    rcases exists_last_free rules with each | ⟨before, rule, after, rfl, free, each⟩
    · have chain_eq : ofRules rules = ⟨.denial, rules.filterMap Rule.test?⟩ :=
        ofRules_append_guarded [] each
      exact chain_eq ▸ .guarded each
    · exact ofRules_append_free before free each ▸ .settled rfl free each

theorem ofRules_append_of_free (before : List Rule) (freed : ∃ rule ∈ after, rule.filter = none) :
    ofRules (before ++ after) = ofRules after := by
  rcases exists_last_free after with each | ⟨early, rule, late, rfl, free, each⟩
  · obtain ⟨rule, member, free⟩ := freed
    exact absurd free (each rule member)
  · rw [← List.append_assoc, ofRules_append_free _ free each, ofRules_append_free _ free each]

theorem ofRules_cons_denial (free : rule.filter = none) (denies : rule.verdict = .denial)
    (rules : List Rule) : ofRules (rule :: rules) = ofRules rules := by
  rcases exists_last_free rules with each | ⟨early, last, late, rfl, freed, each⟩
  · have denied : ofRules (rule :: rules) = ⟨rule.verdict, rules.filterMap Rule.test?⟩ :=
      ofRules_append_free [] free each
    have open_eq : ofRules rules = ⟨.denial, rules.filterMap Rule.test?⟩ :=
      ofRules_append_guarded [] each
    rw [denied, denies, open_eq]
  · rw [← List.cons_append, ofRules_append_free _ freed each, ofRules_append_free _ freed each]

theorem ofRules_congr {other : Rule} (before after : List Rule)
    (filter_eq : other.filter = rule.filter) (verdict_eq : other.verdict = rule.verdict) :
    ofRules (before ++ rule :: after) = ofRules (before ++ other :: after) := by
  induction after using List.reverseRecOn with
  | nil =>
      cases guarded : rule.filter with
      | none =>
          rw [ofRules_concat_none before guarded,
            ofRules_concat_none before (filter_eq.trans guarded), verdict_eq]
      | some guard =>
          rw [ofRules_concat_some before guarded,
            ofRules_concat_some before (filter_eq.trans guarded), verdict_eq]
  | append_singleton after last ih =>
      rw [← List.cons_append, ← List.append_assoc, ← List.cons_append, ← List.append_assoc]
      cases guarded : last.filter with
      | none => rw [ofRules_concat_none _ guarded, ofRules_concat_none _ guarded]
      | some guard => rw [ofRules_concat_some _ guarded, ofRules_concat_some _ guarded, ih]

end Chain

/-! Compiling lowers what is alive, slot by slot. -/

theorem Policy.lower_eq_mapM {policy : Policy} (valid : ∀ rule ∈ policy.rules, rule.Valid table)
    {builder : Builder} (sound : builder.Sound) :
    policy.lower table builder =
      ((List.range table.size).map fun slot =>
        Chain.ofRules (policy.covering table slot)).mapM Lower.chain builder := by
  obtain ⟨resolved, resolves, lowered⟩ := Policy.lower_eq_slots valid
  have chains : Lower.chainAt table resolved =
      Lower.chain ∘ fun slot => Chain.ofRules (policy.covering table slot) := by
    funext slot
    rw [Lower.chainAt, resolves.covering]
    rfl
  rw [lowered, Lower.slots_eq_mapM _ sound (by simp [Lower.Recalls]), chains, List.mapM_map]

theorem compile_eq_of_sameLive {source source' : String} {parameters parameters' : Bindings}
    {policy other : Policy} (checked : Policy.check table source parameters = .ok policy)
    (checked' : Policy.check table source' parameters' = .ok other)
    (same : policy.SameLive table other) :
    compile table source parameters = compile table source' parameters' := by
  obtain ⟨builder, started⟩ := exists_start table .single
  have sound := Builder.start_sound started
  have valid := Policy.diagnostics_nil (Policy.check_eq_ok.mp checked).2
  have valid' := Policy.diagnostics_nil (Policy.check_eq_ok.mp checked').2
  have chains : ((List.range table.size).map fun slot =>
        Chain.ofRules (policy.covering table slot)) =
      (List.range table.size).map fun slot => Chain.ofRules (other.covering table slot) := by
    refine List.map_congr_left fun slot member => ?_
    obtain ⟨view, live, live'⟩ := same slot (List.mem_range.mp member)
    rw [← Chain.liveView_iff.mp live, ← Chain.liveView_iff.mp live']
  have lowered : policy.lower table builder = other.lower table builder := by
    rw [Policy.lower_eq_mapM valid sound, Policy.lower_eq_mapM valid' sound, chains]
  have added : addPolicy table none policy builder = addPolicy table none other builder := by
    rw [addPolicy, addPolicy, bind_apply, bind_apply, lowered]
  rw [compile_eq_finished checked started, compile_eq_finished checked' started, finished,
    finished, EStateM.run, EStateM.run, added]

/-! Changes that no slot notices. -/

/-- A change of rules: to leave out a rule that later ones without a filter settle wherever it
applies, to exchange neighbours that apply to no slot in common, to name one more operation that
the rule covers, to deny everything in front, or to write a rule elsewhere in the text. -/
inductive Rearranged (table : OperationTable) : List Rule → List Rule → Prop
  | shadowed {before after : List Rule} {rule : Rule}
      (settled : ∀ slot < table.size, rule.appliesTo table slot = true →
        ∃ later ∈ after, later.filter = none ∧ later.appliesTo table slot = true) :
      Rearranged table (before ++ rule :: after) (before ++ after)
  | swapped {before after : List Rule} {first second : Rule}
      (apart : ∀ slot < table.size,
        ¬(first.appliesTo table slot = true ∧ second.appliesTo table slot = true)) :
      Rearranged table (before ++ first :: second :: after) (before ++ second :: first :: after)
  | named {before after : List Rule} {rule : Rule} {front back : List String} {name : String}
      {slot : Nat} (listed : rule.operations = front ++ back)
      (resolved : table.resolve name = some slot) (covered : rule.appliesTo table slot = true) :
      Rearranged table (before ++ rule :: after)
        (before ++ { rule with operations := front ++ name :: back } :: after)
  | denied {rules : List Rule} (span : Span) :
      Rearranged table rules (⟨.deny, ["default"], none, .none, span⟩ :: rules)
  | moved {before after : List Rule} {rule : Rule} (span : Span) :
      Rearranged table (before ++ rule :: after) (before ++ { rule with span } :: after)

theorem Rule.appliesTo_iff {rule : Rule} {slot : Nat} : rule.appliesTo table slot = true ↔
    ∃ name ∈ rule.operations, ∃ ruleSlot, table.resolve name = some ruleSlot ∧
      table.covers ruleSlot slot = true := by
  simp [appliesTo, Option.any_eq_true]

theorem Rule.appliesTo_named {rule : Rule} {front back : List String} {name : String}
    {slot : Nat} (listed : rule.operations = front ++ back)
    (resolved : table.resolve name = some slot) (covered : rule.appliesTo table slot = true)
    (asked : Nat) : appliesTo table asked { rule with operations := front ++ name :: back } =
      rule.appliesTo table asked := by
  have through : table.covers slot asked = true → rule.appliesTo table asked = true := by
    intro lower
    obtain ⟨other, member, ruleSlot, known, upper⟩ := appliesTo_iff.mp covered
    exact appliesTo_iff.mpr ⟨other, member, ruleSlot, known, table.covers_trans upper lower⟩
  simp only [appliesTo, listed, List.any_append, List.any_cons, resolved, Option.any_some] at *
  cases lower : table.covers slot asked with
  | false => simp
  | true => simpa using through lower

theorem Rearranged.ofRules_eq {rules others : List Rule} (change : Rearranged table rules others)
    {slot : Nat} (bound : slot < table.size) :
    Chain.ofRules (rules.filter (Rule.appliesTo table slot)) =
      Chain.ofRules (others.filter (Rule.appliesTo table slot)) := by
  cases change with
  | @shadowed before after rule settled =>
      rw [List.filter_append, List.filter_append, List.filter_cons]
      split
      next applies =>
        obtain ⟨later, member, free, applies'⟩ := settled slot bound applies
        have freed : ∃ later ∈ after.filter (Rule.appliesTo table slot), later.filter = none :=
          ⟨later, List.mem_filter.mpr ⟨member, applies'⟩, free⟩
        rw [List.append_cons, Chain.ofRules_append_of_free _ freed,
          Chain.ofRules_append_of_free _ freed]
      next => rfl
  | @swapped before after first second apart =>
      have apart := apart slot bound
      simp only [List.filter_append, List.filter_cons]
      cases applies : first.appliesTo table slot <;>
        cases applies' : second.appliesTo table slot <;> simp_all
  | @named before after rule front back name found listed resolved covered =>
      have same := Rule.appliesTo_named listed resolved covered slot
      simp only [List.filter_append, List.filter_cons, same]
      split
      next => exact Chain.ofRules_congr _ _ rfl rfl
      next => rfl
  | denied span =>
      have everywhere : Rule.appliesTo table slot ⟨.deny, ["default"], none, .none, span⟩ = true :=
        Rule.appliesTo_iff.mpr
          ⟨"default", List.mem_cons_self, 0, table.resolve_default, table.covers_zero slot⟩
      rw [List.filter_cons, if_pos everywhere]
      exact (Chain.ofRules_cons_denial rfl rfl _).symm
  | @moved before after rule span =>
      have same : Rule.appliesTo table slot { rule with span } = rule.appliesTo table slot := rfl
      simp only [List.filter_append, List.filter_cons, same]
      split
      next => exact Chain.ofRules_congr _ _ rfl rfl
      next => rfl

theorem eq_of_eqvGen {α β : Type} {change : α → α → Prop} (value : α → β)
    (kept : ∀ first second, change first second → value first = value second) {first second : α}
    (changed : Relation.EqvGen change first second) : value first = value second :=
  congrArg (Quot.lift value kept) (Quot.eqvGen_sound changed)

theorem Policy.sameLive_of_eqvGen {policy other : Policy}
    (changed : Relation.EqvGen (Rearranged table) policy.rules other.rules) :
    policy.SameLive table other := by
  intro slot bound
  have chains := eq_of_eqvGen
    (fun rules => Chain.ofRules (rules.filter (Rule.appliesTo table slot)))
    (fun rules others change => change.ofRules_eq bound) changed
  exact ⟨_, Chain.liveView_iff.mpr rfl, Chain.liveView_iff.mpr chains⟩

/-- Policies of which the same is alive at every slot compile to the same bytes, or overflow the
same table; so do policies that come from each other by changes without effect. -/
theorem compile_eq_of_live {source source' : String} {parameters parameters' : Bindings}
    {policy other : Policy} (checked : Policy.check table source parameters = .ok policy)
    (checked' : Policy.check table source' parameters' = .ok other) :
    (policy.SameLive table other →
      compile table source parameters = compile table source' parameters') ∧
    (Relation.EqvGen (Rearranged table) policy.rules other.rules →
      compile table source parameters = compile table source' parameters') ∧
    CompilesOrOverflows (compile table source parameters) := by
  refine ⟨compile_eq_of_sameLive checked checked', fun changed => ?_, compile_of_check checked⟩
  exact compile_eq_of_sameLive checked checked' (Policy.sameLive_of_eqvGen changed)

set_option maxRecDepth 100000 in
/-- A rule that a later one settles makes no difference, and neither does the version. -/
theorem compile_eq_of_live_shadowed :
    compile ⟨["default"], by decide, rfl, by decide⟩
        "(version 1) (allow default (literal \"/a\")) (deny default)" .empty =
      compile ⟨["default"], by decide, rfl, by decide⟩ "(version 2) (deny default)" .empty ∧
    CompilesOrOverflows (compile ⟨["default"], by decide, rfl, by decide⟩
      "(version 1) (allow default (literal \"/a\")) (deny default)" .empty) := by
  let table : OperationTable := ⟨["default"], by decide, rfl, by decide⟩
  let allowed : Rule :=
    ⟨.allow, ["default"], some (.leaf "literal" (.path "/a")), .none, ⟨12, 42⟩⟩
  let denied : Rule := ⟨.deny, ["default"], none, .none, ⟨43, 57⟩⟩
  have checked : Policy.check ⟨["default"], by decide, rfl, by decide⟩
      "(version 1) (allow default (literal \"/a\")) (deny default)" .empty =
        .ok ⟨1, ⟨0, 11⟩, [⟨.allow, ["default"], some (.leaf "literal" (.path "/a")), .none,
          ⟨12, 42⟩⟩, ⟨.deny, ["default"], none, .none, ⟨43, 57⟩⟩]⟩ := by cbv
  have checked' : Policy.check ⟨["default"], by decide, rfl, by decide⟩
      "(version 2) (deny default)" .empty =
        .ok ⟨2, ⟨0, 11⟩, [⟨.deny, ["default"], none, .none, ⟨12, 26⟩⟩]⟩ := by cbv
  have everywhere (slot : Nat) : Rule.appliesTo table slot denied = true :=
    Rule.appliesTo_iff.mpr
      ⟨"default", List.mem_cons_self, 0, table.resolve_default, table.covers_zero slot⟩
  have shadowed : Rearranged table ([] ++ [allowed, denied]) ([] ++ [denied]) :=
    .shadowed fun slot _ _ => ⟨denied, List.mem_cons_self, rfl, everywhere slot⟩
  have moved : Rearranged table ([] ++ [denied]) ([] ++ [{ denied with span := ⟨12, 26⟩ }]) :=
    .moved ⟨12, 26⟩
  obtain ⟨_, rearranged, done⟩ := compile_eq_of_live checked checked'
  exact ⟨rearranged (.trans _ _ _ (.rel _ _ shadowed) (.rel _ _ moved)), done⟩

end SandboxPolicy
