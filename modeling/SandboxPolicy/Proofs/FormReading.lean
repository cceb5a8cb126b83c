import SandboxPolicy.Proofs.Checking
import SandboxPolicy.Proofs.Forms
import SandboxPolicy.Proofs.Parsing

/-!
What the expressions of a policy denote. Whatever places they have in a text, the expression of a
condition is read as the condition, that of a rule as the rule, and those of a policy as the policy.
-/

namespace SandboxPolicy

/-! Numbers. -/

theorem toList_number (number : Nat) : (toString number).toList = Nat.toDigits 10 number := by
  rw [Nat.toString_eq_repr, Nat.toList_repr]

theorem isDigit_of_mem_number (number : Nat) :
    ∀ c ∈ (toString number).toList, isDigit c = true := by
  intro c member
  rw [toList_number] at member
  have digit := Nat.isDigit_of_mem_toDigits (by decide) (by decide) member
  rw [Char.isDigit] at digit
  simpa [isDigit, Char.le_def] using digit

theorem number_ne_nil (number : Nat) : (toString number).toList ≠ [] := by
  rw [toList_number]
  exact Nat.toDigits_ne_nil

theorem digitsValue_number (number : Nat) : digitsValue (toString number).toList = number := by
  have counted := Nat.ofDigitChars_toDigits (n := number) (b := 10) (by decide) (by decide)
  rw [toList_number, digitsValue]
  simpa [Nat.ofDigitChars, Nat.mul_comm] using counted

theorem readNumber_number {number greatest : Nat} (small : number ≤ greatest) :
    readNumber greatest (toString number) = some number := by
  have digits := isDigit_of_mem_number number
  have read : readDigits greatest (toString number).toList = some number := by
    have all : (toString number).toList.all isDigit = true := List.all_eq_true.mpr digits
    simp only [readDigits, List.isEmpty_eq_false_iff.mpr (number_ne_nil number), all,
      digitsValue_number, small]
    rfl
  rw [readNumber]
  split
  next rest signed =>
    rw [signed] at digits
    exact absurd (digits '+' List.mem_cons_self) (by decide)
  next => exact read

/-! What the expressions denote. -/

theorem Catalogue.byName?_head :
    ∀ head ∈ ["require-all", "require-any", "require-not", "with"], byName? head = none := by
  decide

namespace PolicySource

variable {source : PolicySource} {items : List SExpr} {item : SExpr} {name : String} {span : Span}

theorem arguments_of_bare {kind : ArgumentKind} {argument : Argument}
    (suits : argument.Suits kind) (same : items.map SExpr.bare = argument.exprs) :
    source.arguments name kind span items = .ok [argument] := by
  cases suits with
  | path value | name value | entitlement value =>
      obtain ⟨item, rfl, only⟩ := List.map_eq_singleton_iff.mp same
      obtain ⟨_, rfl⟩ := SExpr.bare_eq_str.mp only
      rfl
  | regex =>
      obtain ⟨item, rfl, only⟩ := List.map_eq_singleton_iff.mp same
      obtain ⟨_, rfl⟩ := SExpr.bare_eq_regex.mp only
      rfl
  | keyword =>
      obtain ⟨item, rfl, only⟩ := List.map_eq_singleton_iff.mp same
      obtain ⟨_, rfl⟩ := SExpr.bare_eq_atom.mp only
      rfl
  | address =>
      obtain ⟨protocol, rest, rfl, first, behind⟩ := List.map_eq_cons_iff.mp same
      obtain ⟨item, rfl, second⟩ := List.map_eq_singleton_iff.mp behind
      obtain ⟨_, rfl⟩ := SExpr.bare_eq_atom.mp first
      obtain ⟨_, rfl⟩ := SExpr.bare_eq_str.mp second
      rfl

theorem leaf_of_bare {argument : Argument} {nameSpan : Span}
    (checked : checkArgument name argument = .ok ())
    (same : items.map SExpr.bare = argument.exprs) :
    source.leaf name nameSpan span items = .ok (.leaf name argument) := by
  obtain ⟨known, found, suits⟩ := checkArgument_suits checked
  have filled : items.isEmpty = false := by
    cases items with
    | nil => cases argument <;> cases same
    | cons => rfl
  rw [leaf, found]
  simp only [filled, Bool.false_eq_true, if_false, arguments_of_bare suits same,
    Catalogue.byName?_name found]
  rfl

theorem filled_of_bare {guards : List Filter} (some : guards ≠ [])
    (same : items.map SExpr.bare = Filter.exprsOf guards) : items.isEmpty = false := by
  cases guards with
  | nil => exact absurd rfl some
  | cons guard rest =>
      obtain ⟨_, _, rfl, _⟩ := List.map_eq_cons_iff.mp same
      rfl

mutual

theorem filter_of_bare : (guard : Filter) → guard.Full → guard.Valid → (expr : SExpr) →
    expr.bare = guard.expr → source.filter expr = .ok guard
  | .leaf name argument, _, valid, expr, same => by
      have checked := valid (name, argument) (List.mem_singleton_self _)
      obtain ⟨known, found, _⟩ := checkArgument_suits checked
      obtain ⟨headSpan, items, span, rfl, inside⟩ := SExpr.bare_eq_form.mp same
      -- No filter is named like the head of a condition, so the form is read as a test.
      have other : name ∉ ["require-all", "require-any", "require-not", "with"] := fun isHead => by
        rw [Catalogue.byName?_head name isHead] at found
        cases found
      simp only [List.mem_cons, not_or] at other
      obtain ⟨notAll, notAny, notNot, _⟩ := other
      rw [filter_list, if_neg (not_or.mpr ⟨notAll, notAny⟩), if_neg notNot,
        leaf_of_bare checked inside]
  | .all guards, full, valid, expr, same => by
      obtain ⟨headSpan, items, span, rfl, inside⟩ := SExpr.bare_eq_form.mp same
      cases full with
      | all some full =>
          have read := filters_of_bare guards full valid.all items inside
          simp only [filter_list, true_or, if_true, filled_of_bare some inside, Bool.false_eq_true,
            if_false, read]
          rfl
  | .any guards, full, valid, expr, same => by
      obtain ⟨headSpan, items, span, rfl, inside⟩ := SExpr.bare_eq_form.mp same
      cases full with
      | any some full =>
          have read := filters_of_bare guards full valid.any items inside
          simp only [filter_list, or_true, if_true, filled_of_bare some inside, Bool.false_eq_true,
            if_false, read]
          rfl
  | .not guard, full, valid, expr, same => by
      obtain ⟨headSpan, items, span, rfl, inside⟩ := SExpr.bare_eq_form.mp same
      obtain ⟨item, rfl, only⟩ := List.map_eq_singleton_iff.mp inside
      cases full with
      | not full =>
          have read := filter_of_bare guard full valid.not item only
          rw [filter_list, if_neg (by decide), if_pos rfl]
          simp only [read]
          rfl

theorem filters_of_bare : (guards : List Filter) → (∀ guard ∈ guards, guard.Full) →
    (∀ guard ∈ guards, guard.Valid) → (items : List SExpr) →
    items.map SExpr.bare = Filter.exprsOf guards → source.filters items = .ok guards
  | [], _, _, items, same => by
      rw [List.map_eq_nil_iff.mp same, filters]
  | guard :: rest, full, valid, items, same => by
      rw [List.forall_mem_cons] at full valid
      obtain ⟨item, others, rfl, first, later⟩ := List.map_eq_cons_iff.mp same
      have read := filter_of_bare guard full.1 valid.1 item first
      have behind := filters_of_bare rest full.2 valid.2 others later
      rw [filters, read, behind]
      rfl

end

/-! Rules. -/

variable {parts : RuleParts}

theorem addItem_names {names : List String} (same : items.map SExpr.bare = atomsOf names)
    (unguarded : parts.filters = []) :
    items.foldlM source.addItem parts =
      .ok { parts with operations := names.reverse ++ parts.operations } := by
  induction names generalizing items parts with
  | nil =>
      rw [List.map_eq_nil_iff.mp same]
      rfl
  | cons name rest ih =>
      obtain ⟨item, others, rfl, first, later⟩ := List.map_eq_cons_iff.mp same
      obtain ⟨_, rfl⟩ := SExpr.bare_eq_atom.mp first
      have added (span : Span) : source.addItem parts (.atom name span) =
          .ok { parts with operations := name :: parts.operations } := by
        simp [addItem, unguarded]
      have unguarded' : ({ parts with operations := name :: parts.operations }
          : RuleParts).filters = [] := unguarded
      rw [List.foldlM_cons, added]
      change others.foldlM source.addItem _ = _
      rw [ih later unguarded']
      simp

theorem addItem_guard {guard : Filter} (read : source.filter item = .ok guard) :
    source.addItem parts item = .ok { parts with filters := guard :: parts.filters } := by
  match item, read with
  | .list items span, read =>
      have noWith : (SExpr.list items span).head? ≠ some "with" := by
        intro isWith
        match items with
        | .atom head headSpan :: rest =>
            obtain rfl : head = "with" := by simpa [SExpr.head?] using isWith
            rw [filter_list, if_neg (by decide), if_neg (by decide), leaf,
              Catalogue.byName?_head "with" (by decide)] at read
            cases read
      rw [addItem.eq_def]
      simp only [noWith, if_false, read]
      rfl

theorem addItem_condition {condition : Option Filter}
    (full : ∀ guard, condition = some guard → guard.Full)
    (valid : ∀ guard, condition = some guard → guard.Valid)
    (same : items.map SExpr.bare = (condition.map Filter.expr).toList)
    (unguarded : parts.filters = []) :
    items.foldlM source.addItem parts = .ok { parts with filters := condition.toList } := by
  cases condition with
  | none =>
      rw [List.map_eq_nil_iff.mp same, Option.toList_none, ← unguarded]
      rfl
  | some guard =>
      obtain ⟨item, rfl, only⟩ := List.map_eq_singleton_iff.mp same
      have read : source.filter item = .ok guard :=
        filter_of_bare guard (full guard rfl) (valid guard rfl) item only
      rw [List.foldlM_cons, addItem_guard read, unguarded]
      rfl

theorem modifiersFrom_cons {modifier others : Modifiers} {rest : List SExpr}
    (known : Modifiers.ofKeyword? name = some modifier)
    (read : source.modifiersFrom rest = .ok others) :
    source.modifiersFrom (.atom name span :: rest) = .ok (modifier.union others) := by
  rw [modifiersFrom]
  simp only [SExpr.text?, Option.bind_some, known, read]
  rfl

theorem modifiersFrom_names {modifiers : Modifiers}
    (same : items.map SExpr.bare = atomsOf modifiers.names) :
    source.modifiersFrom items = .ok modifiers := by
  have done : source.modifiersFrom [] = .ok .none := rfl
  have report : Modifiers.ofKeyword? "report" = some ⟨true, false⟩ := rfl
  have noLog : Modifiers.ofKeyword? "no-log" = some ⟨false, true⟩ := rfl
  rcases modifiers with ⟨reported, unlogged⟩
  cases reported <;> cases unlogged
  case false.false => exact List.map_eq_nil_iff.mp same ▸ done
  case false.true =>
    obtain ⟨item, rfl, only⟩ := List.map_eq_singleton_iff.mp same
    obtain ⟨_, rfl⟩ := SExpr.bare_eq_atom.mp only
    exact modifiersFrom_cons noLog done
  case true.false =>
    obtain ⟨item, rfl, only⟩ := List.map_eq_singleton_iff.mp same
    obtain ⟨_, rfl⟩ := SExpr.bare_eq_atom.mp only
    exact modifiersFrom_cons report done
  case true.true =>
    obtain ⟨item, rest, rfl, first, behind⟩ := List.map_eq_cons_iff.mp same
    obtain ⟨item, rfl, second⟩ := List.map_eq_singleton_iff.mp behind
    obtain ⟨_, rfl⟩ := SExpr.bare_eq_atom.mp first
    obtain ⟨_, rfl⟩ := SExpr.bare_eq_atom.mp second
    exact modifiersFrom_cons report (modifiersFrom_cons noLog done)

theorem addItem_modifiers {modifiers : Modifiers} (plain : parts.modifiers = .none)
    (same : items.map SExpr.bare = modifiers.exprs) :
    items.foldlM source.addItem parts = .ok { parts with modifiers } := by
  rw [Modifiers.exprs] at same
  split at same
  next empty =>
    rw [List.map_eq_nil_iff.mp same]
    rcases modifiers with ⟨report, noLog⟩
    obtain ⟨rfl, rfl⟩ : report = false ∧ noLog = false := by simpa [Modifiers.isEmpty] using empty
    rw [← Modifiers.none, ← plain]
    rfl
  next filled =>
    obtain ⟨item, rfl, only⟩ := List.map_eq_singleton_iff.mp same
    obtain ⟨headSpan, inner, span, rfl, inside⟩ := SExpr.bare_eq_form.mp only
    have read : source.modifiersFrom inner = .ok modifiers := modifiersFrom_names inside
    have several : ¬(SExpr.atom "with" headSpan :: inner).length < 2 := by
      have lengths := congrArg List.length inside
      have some := List.length_pos_iff.mpr (Modifiers.names_ne_nil (by simpa using filled))
      rw [atomsOf, List.length_map, List.length_map] at lengths
      rw [List.length_cons]
      omega
    have isWith : (SExpr.list (SExpr.atom "with" headSpan :: inner) span).head? = some "with" := rfl
    have combined : parts.modifiers.union modifiers = modifiers := by
      simp [plain, Modifiers.union, Modifiers.none]
    have added : source.addItem parts (.list (.atom "with" headSpan :: inner) span) =
        .ok { parts with modifiers } := by
      rw [addItem, if_pos isWith, if_neg several, List.tail_cons, read]
      simp only [bind, Except.bind, combined]
      rfl
    rw [List.foldlM_cons, added]
    rfl

theorem rule_of_bare {table : OperationTable} {rule : Rule} (written : rule.Written)
    (valid : rule.Valid table) (same : items.map SExpr.bare = rule.exprs) :
    source.rule rule.action items span = .ok { rule with span } := by
  obtain ⟨names, rest, rfl, named, behind⟩ := List.map_eq_append_iff.mp same
  obtain ⟨guards, modifiers, rfl, guarded, modified⟩ := List.map_eq_append_iff.mp behind
  -- Operations, condition and modifiers follow each other, so no item meets one of a later kind.
  have first : names.foldlM source.addItem ⟨[], [], .none⟩ =
      .ok ⟨rule.operations.reverse, [], .none⟩ := by
    rw [addItem_names named rfl]
    simp
  have second : guards.foldlM source.addItem ⟨rule.operations.reverse, [], .none⟩ =
      .ok ⟨rule.operations.reverse, rule.filter.toList, .none⟩ :=
    addItem_condition written.full valid.filter guarded rfl
  have third : modifiers.foldlM source.addItem
      ⟨rule.operations.reverse, rule.filter.toList, .none⟩ =
        .ok ⟨rule.operations.reverse, rule.filter.toList, rule.modifiers⟩ :=
    addItem_modifiers rfl modified
  have all : (names ++ (guards ++ modifiers)).foldlM source.addItem ⟨[], [], .none⟩ =
      .ok ⟨rule.operations.reverse, rule.filter.toList, rule.modifiers⟩ := by
    simp only [List.foldlM_append, first, bind, Except.bind, second, third]
  have named : rule.operations.reverse.isEmpty = false := by
    simpa using written.named
  have together : allOf rule.filter.toList.reverse = rule.filter := by
    cases rule.filter <;> rfl
  rw [PolicySource.rule, all]
  simp only [bind, Except.bind, named, Bool.false_eq_true, if_false, List.reverse_reverse,
    together]
  rfl

theorem addForm_rule (source : PolicySource) {table : OperationTable} {rule : Rule} {form : SExpr}
    (written : rule.Written) (valid : rule.Valid table) (same : form.bare = rule.expr)
    (parts : PolicyParts) : ∃ span, source.addForm parts form =
      .ok { parts with rules := { rule with span } :: parts.rules } := by
  obtain ⟨headSpan, items, span, rfl, inside⟩ := SExpr.bare_eq_form.mp same
  have noVersion : rule.action.name ≠ "version" := by
    cases rule.action <;> decide
  have isAction : Action.ofName? rule.action.name = some rule.action := by
    cases rule.action <;> rfl
  refine ⟨span, ?_⟩
  rw [addForm, if_neg noVersion, isAction]
  simp only [rule_of_bare written valid inside, bind, Except.bind]
  rfl

theorem addForms_rules (source : PolicySource) {table : OperationTable} {rules : List Rule}
    {forms : List SExpr}
    (written : ∀ rule ∈ rules, rule.Written) (valid : ∀ rule ∈ rules, rule.Valid table)
    (same : forms.map SExpr.bare = rules.map Rule.expr) (parts : PolicyParts) :
    ∃ added : List Rule, forms.foldlM source.addForm parts =
        .ok { parts with rules := added.reverse ++ parts.rules } ∧
      added.map Rule.bare = rules.map Rule.bare := by
  induction rules generalizing forms parts with
  | nil => exact ⟨[], by rw [List.map_eq_nil_iff.mp same]; rfl, rfl⟩
  | cons rule rest ih =>
      rw [List.forall_mem_cons] at written valid
      obtain ⟨form, others, rfl, first, later⟩ := List.map_eq_cons_iff.mp same
      obtain ⟨span, read⟩ := addForm_rule source written.1 valid.1 first parts
      obtain ⟨added, behind, alike⟩ := ih written.2 valid.2 later
        { parts with rules := { rule with span } :: parts.rules }
      refine ⟨{ rule with span } :: added, ?_, ?_⟩
      · simp [List.foldlM_cons, read, bind, Except.bind, behind]
      · rw [List.map_cons, List.map_cons, alike]
        rfl

theorem addForm_version (source : PolicySource) {policy : Policy} {form : SExpr}
    (same : form.bare = policy.versionExpr) :
    ∃ span, source.addForm ⟨none, []⟩ form = .ok ⟨some (policy.version, span), []⟩ := by
  obtain ⟨headSpan, items, span, rfl, inside⟩ := SExpr.bare_eq_form.mp same
  obtain ⟨item, rfl, only⟩ := List.map_eq_singleton_iff.mp inside
  obtain ⟨_, rfl⟩ := SExpr.bare_eq_atom.mp only
  have small : policy.version.toNat ≤ 0xffffffff := Nat.le_of_lt_succ policy.version.toNat_lt
  refine ⟨span, ?_⟩
  simp only [addForm, if_true, version, readNumber_number small, UInt32.ofNat_toNat]
  rfl

theorem policy_of_bare {table : OperationTable} {asked : Policy} {forms : List SExpr}
    (written : ∀ rule ∈ asked.rules, rule.Written)
    (valid : ∀ rule ∈ asked.rules, rule.Valid table)
    (same : forms.map SExpr.bare = asked.versionExpr :: asked.rules.map Rule.expr) :
    ∃ again, source.policy forms = .ok again ∧ again.version = asked.version ∧
      again.rules.map Rule.bare = asked.rules.map Rule.bare := by
  obtain ⟨form, others, rfl, first, later⟩ := List.map_eq_cons_iff.mp same
  obtain ⟨span, versioned⟩ := addForm_version source first
  obtain ⟨added, read, alike⟩ := addForms_rules source written valid later
    ⟨some (asked.version, span), []⟩
  refine ⟨⟨asked.version, span, added⟩, ?_, rfl, alike⟩
  simp only [policy, List.foldlM_cons, versioned, bind, Except.bind, read, List.append_nil,
    List.reverse_reverse]
  rfl

end PolicySource

end SandboxPolicy
