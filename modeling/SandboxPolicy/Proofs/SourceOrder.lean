import Mathlib
import SandboxPolicy.Policy.Diagnostics
import SandboxPolicy.Proofs.Positions
import SandboxPolicy.Proofs.Spans

/-!
Complaints in the order of the source. Those about rules come in the order of the rules, whose forms
stand one behind the other; the one about the version comes first, wherever its form stands.
-/

namespace SandboxPolicy

structure Span.Leads (source : String) (first second : Span) : Prop where
  start_lt : first.start < second.start
  rank_lt : (positionAt source first.start).rank < (positionAt source second.start).rank

/-! Forms. -/

namespace SExpr

theorem parse_leads {source : String} {exprs : List SExpr} (parsed : parse source = .ok exprs) :
    (exprs.map span).Pairwise (Span.Leads source) := by
  obtain ⟨tokens, scanned, assembled⟩ := parse_eq_ok.mp parsed
  have spells := assemble_eq_ok.mp assembled
  have laid := Scan.run_eq_ok.mp scanned
  refine List.pairwise_map.mpr (List.Pairwise.imp_of_mem ?_ (spells.ordered laid.ordered))
  intro first second member _ precedes
  obtain ⟨before, own, after, rfl, alone⟩ := spells.of_mem member
  have placed := alone.placed laid
  have behind : first.span.start < second.span.start := placed.nonempty.trans_le precedes
  refine ⟨behind, ?_⟩
  obtain ⟨front, part, rest, split, start, stop, _⟩ := exists_part laid alone
  cases part with
  | nil =>
      have empty : first.span.start = first.span.stop := start.trans stop.symm
      exact absurd empty (Nat.ne_of_lt placed.nonempty)
  | cons c part =>
      rw [start] at behind ⊢
      exact positionAt_lt (by simpa using split) behind

end SExpr

namespace PolicySource

variable {source : PolicySource} {form : SExpr} {forms : List SExpr} {parts next last : PolicyParts}

inductive Adds (form : SExpr) (parts : PolicyParts) : PolicyParts → Prop
  | version (number : UInt32) (fresh : parts.version = none) :
      Adds form parts { parts with version := some (number, form.span) }
  | rule {rule : Rule} (span : rule.span = form.span) :
      Adds form parts { parts with rules := rule :: parts.rules }
  | nothing : Adds form parts parts

theorem rule_span {action : Action} {items : List SExpr} {span : Span} {rule : Rule}
    (read : source.rule action items span = .ok rule) : rule.span = span := by
  rw [PolicySource.rule] at read
  obtain ⟨found, _, read⟩ := Outcome.bind_eq_ok.mp read
  split at read
  next => cases read
  next =>
    cases read
    rfl

theorem addForm_adds (added : source.addForm parts form = .ok next) : Adds form parts next := by
  rw [addForm.eq_def] at added
  split at added
  next head headSpan items span =>
    split at added
    next =>
      split at added
      next => cases added
      next fresh =>
        obtain ⟨number, _, done⟩ := Outcome.bind_eq_ok.mp added
        cases done
        exact .version number (by simpa using fresh)
    next =>
      split at added
      next action _ =>
        obtain ⟨rule, read, done⟩ := Outcome.bind_eq_ok.mp added
        cases done
        exact .rule (rule_span read)
      next =>
        split at added
        next =>
          cases added
          exact .nothing
        next => split at added <;> cases added
  next => cases added
  next => cases added

theorem addForms_span {source : PolicySource}
    (added : forms.foldlM source.addForm parts = .ok last) :
    ∃ rules, last.rules = rules ++ parts.rules ∧
      (rules.reverse.map Rule.span).Sublist (forms.map SExpr.span) := by
  induction forms generalizing parts with
  | nil =>
      cases added
      exact ⟨[], rfl, .slnil⟩
  | cons form forms ih =>
      rw [List.foldlM_cons] at added
      obtain ⟨next, first, later⟩ := Outcome.bind_eq_ok.mp added
      obtain ⟨rules, all, ordered⟩ := ih later
      cases addForm_adds first with
      | version | nothing => exact ⟨rules, all, ordered.cons _⟩
      | @rule rule span =>
          refine ⟨rules ++ [rule], by simpa using all, ?_⟩
          rw [List.reverse_concat, List.map_cons, List.map_cons, span]
          exact ordered.cons_cons _

theorem addForms_divided {source : PolicySource} {version : UInt32 × Span}
    (added : forms.foldlM source.addForm parts = .ok last) (unset : parts.version = none)
    (found : last.version = some version) :
    ∃ front form back before after, forms = front ++ form :: back ∧ form.span = version.2 ∧
      last.rules = after ++ before ++ parts.rules ∧
      (before.reverse.map Rule.span).Sublist (front.map SExpr.span) ∧
      (after.reverse.map Rule.span).Sublist (back.map SExpr.span) := by
  induction forms generalizing parts with
  | nil =>
      cases added
      rw [unset] at found
      cases found
  | cons form forms ih =>
      rw [List.foldlM_cons] at added
      obtain ⟨next, first, later⟩ := Outcome.bind_eq_ok.mp added
      cases addForm_adds first with
      | version number =>
          -- No later form gives another version.
          have keeps (other : SExpr) (_ : other ∈ forms) (parts next : PolicyParts)
              (set : parts.version = some (number, form.span))
              (added : source.addForm parts other = .ok next) :
              next.version = some (number, form.span) := by
            cases addForm_adds added with
            | version number fresh =>
                rw [fresh] at set
                cases set
            | rule | nothing => exact set
          have kept := Outcome.foldlM_keeps keeps rfl later
          obtain ⟨after, all, ordered⟩ := addForms_span later
          cases kept.symm.trans found
          exact ⟨[], form, forms, [], after, rfl, rfl, by simpa using all, .slnil, ordered⟩
      | @rule rule span =>
          obtain ⟨front, middle, back, before, after, rfl, place, all, ahead, behind⟩ :=
            ih later unset
          refine ⟨form :: front, middle, back, before ++ [rule], after, rfl, place,
            by simpa using all, ?_, behind⟩
          rw [List.reverse_concat, List.map_cons, List.map_cons, span]
          exact ahead.cons_cons _
      | nothing =>
          obtain ⟨front, middle, back, before, after, rfl, place, all, ahead, behind⟩ :=
            ih later unset
          exact ⟨form :: front, middle, back, before, after, rfl, place, all, ahead.cons _, behind⟩

end PolicySource

/-- The rules are divided by the form of the version; on both sides they stand in order. -/
structure Policy.Divided (source : String) (policy : Policy) (before after : List Rule) : Prop where
  rules_eq : policy.rules = before ++ after
  spans : (before.map Rule.span ++ policy.versionSpan :: after.map Rule.span).Pairwise
    (Span.Leads source)

theorem Policy.exists_divided {source : String} {parameters : Bindings} {policy : Policy}
    (parsed : Policy.parse source parameters = .ok policy) :
    ∃ before after, policy.Divided source before after := by
  rw [Policy.parse] at parsed
  split at parsed
  next => cases parsed
  next forms read =>
    obtain ⟨last, added, done⟩ := Outcome.bind_eq_ok.mp parsed
    split at done
    next version span found =>
      cases done
      obtain ⟨front, form, back, before, after, rfl, place, all, ahead, behind⟩ :=
        PolicySource.addForms_divided added rfl found
      refine ⟨before.reverse, after.reverse, by simp [all], ?_⟩
      have leads := SExpr.parse_leads read
      rw [List.map_append, List.map_cons, place] at leads
      exact leads.sublist (ahead.append (behind.cons_cons _))
    next => cases done

/-! Complaints. -/

def PolicyError.position? : PolicyError → Option Position
  | .unreadable error => some error.position
  | .missingVersion => none
  | .invalidForm _ position | .unsupportedVersion _ position | .unsupportedForm _ position
  | .unknownOperation _ _ position | .unknownFilter _ _ position | .invalidArgument _ _ position
  | .invalidRegex _ _ position | .missingParameter _ position => some position

def PolicyError.UpTo (first second : PolicyError) : Prop :=
  ∃ place place', first.position? = some place ∧ second.position? = some place' ∧
    place.rank ≤ place'.rank

theorem PolicyError.upTo_iff {first second : PolicyError} {place place' : Position}
    (found : first.position? = some place) (found' : second.position? = some place') :
    first.UpTo second ↔ place.rank ≤ place'.rank := by
  simp [UpTo, found, found']

variable {source : String} {table : OperationTable} {error : PolicyError}

theorem Rule.diagnostics_position {rule : Rule} (member : error ∈ rule.diagnostics source table) :
    error.position? = some (positionAt source rule.span.start) := by
  rw [diagnostics] at member
  rcases List.mem_append.mp member with operation | leaf
  · obtain ⟨name, _, found⟩ := List.mem_filterMap.mp operation
    rw [operationDiagnostic] at found
    split at found <;> cases found
    rfl
  · obtain ⟨leaf, _, found⟩ := List.mem_filterMap.mp leaf
    rw [leafDiagnostic] at found
    split at found
    next => cases found
    next => split at found <;> cases found <;> rfl

namespace Policy

variable {policy : Policy} {before after : List Rule} {rule : Rule}

theorem Divided.pairwise (divided : policy.Divided source before after) :
    (policy.rules.map Rule.span).Pairwise (Span.Leads source) := by
  rw [divided.rules_eq, List.map_append]
  exact divided.spans.sublist (.append_left (List.sublist_cons_self _ _) _)

theorem Divided.rules_ordered (divided : policy.Divided source before after) :
    (policy.rules.flatMap (Rule.diagnostics source table)).Pairwise PolicyError.UpTo := by
  refine List.pairwise_flatMap.mpr ⟨fun rule _ => ?_, ?_⟩
  · refine List.pairwise_of_forall_mem_list fun first member second member' => ?_
    exact (PolicyError.upTo_iff (Rule.diagnostics_position member)
      (Rule.diagnostics_position member')).mpr le_rfl
  · refine (List.pairwise_map.mp divided.pairwise).imp fun leads first member second member' => ?_
    exact (PolicyError.upTo_iff (Rule.diagnostics_position member)
      (Rule.diagnostics_position member')).mpr leads.rank_lt.le

/-- The version is supported, or no rule in front of its form has anything wrong with it. -/
def VersionLeads (source : String) (table : OperationTable) (policy : Policy) : Prop :=
  isSupportedVersion policy.version = true ∨
    ∀ rule ∈ policy.rules, rule.diagnostics source table ≠ [] →
      policy.versionSpan.start < rule.span.start

theorem Divided.lt_iff (divided : policy.Divided source before after)
    (member : rule ∈ policy.rules) :
    policy.versionSpan.start < rule.span.start ↔
      (positionAt source policy.versionSpan.start).rank ≤
        (positionAt source rule.span.start).rank := by
  obtain ⟨_, later, across⟩ := List.pairwise_append.mp divided.spans
  rw [divided.rules_eq] at member
  rcases List.mem_append.mp member with early | late
  · have leads := across rule.span (List.mem_map_of_mem early) policy.versionSpan List.mem_cons_self
    exact iff_of_false (Nat.lt_asymm leads.start_lt) (not_le_of_gt leads.rank_lt)
  · have leads := (List.pairwise_cons.mp later).1 rule.span (List.mem_map_of_mem late)
    exact iff_of_true leads.start_lt leads.rank_lt.le

theorem Divided.foremost_iff (divided : policy.Divided source before after)
    (unsupported : isSupportedVersion policy.version = false)
    (place : error.position? = some (positionAt source policy.versionSpan.start)) :
    (∀ other ∈ policy.rules.flatMap (Rule.diagnostics source table), error.UpTo other) ↔
      policy.VersionLeads source table := by
  rw [VersionLeads, unsupported]
  simp only [Bool.false_eq_true, false_or]
  constructor
  · intro foremost rule member wrong
    obtain ⟨other, rest, found⟩ := List.exists_cons_of_ne_nil wrong
    have listed : other ∈ rule.diagnostics source table := found ▸ List.mem_cons_self
    have upTo := foremost other (List.mem_flatMap.mpr ⟨rule, member, listed⟩)
    rw [PolicyError.upTo_iff place (Rule.diagnostics_position listed)] at upTo
    exact (divided.lt_iff member).mpr upTo
  · intro leads other member
    obtain ⟨rule, member, listed⟩ := List.mem_flatMap.mp member
    rw [PolicyError.upTo_iff place (Rule.diagnostics_position listed)]
    exact (divided.lt_iff member).mp (leads rule member (List.ne_nil_of_mem listed))

theorem diagnostics_cases (policy : Policy) (source : String) (table : OperationTable) :
    (isSupportedVersion policy.version = true ∧
      policy.diagnostics source table = policy.rules.flatMap (Rule.diagnostics source table)) ∨
    (isSupportedVersion policy.version = false ∧
      policy.diagnostics source table =
        .unsupportedVersion policy.version (positionAt source policy.versionSpan.start) ::
          policy.rules.flatMap (Rule.diagnostics source table)) := by
  cases supported : isSupportedVersion policy.version <;>
    simp [diagnostics, versionDiagnostics, supported]

theorem diagnostics_position (member : error ∈ policy.diagnostics source table) :
    ∃ place, error.position? = some place := by
  have ofRules (listed : error ∈ policy.rules.flatMap (Rule.diagnostics source table)) :
      ∃ place, error.position? = some place := by
    obtain ⟨rule, _, listed⟩ := List.mem_flatMap.mp listed
    exact ⟨_, Rule.diagnostics_position listed⟩
  rcases diagnostics_cases policy source table with ⟨_, all⟩ | ⟨_, all⟩
  · exact ofRules (all ▸ member)
  · rcases List.mem_cons.mp (all ▸ member) with rfl | listed
    · exact ⟨_, rfl⟩
    · exact ofRules listed

theorem validate_eq_error : policy.validate source table = .error error ↔
    ∃ rest, policy.diagnostics source table = error :: rest := by
  rw [validate]
  cases policy.diagnostics source table with
  | nil => simp
  | cons first rest => simp

theorem Divided.ordered_iff (divided : policy.Divided source before after) :
    (policy.diagnostics source table).Pairwise PolicyError.UpTo ↔
      policy.VersionLeads source table := by
  have rules : (policy.rules.flatMap (Rule.diagnostics source table)).Pairwise PolicyError.UpTo :=
    divided.rules_ordered
  rcases diagnostics_cases policy source table with ⟨supported, all⟩ | ⟨unsupported, all⟩
  · rw [all]
    exact iff_of_true rules (.inl supported)
  · rw [all, List.pairwise_cons, and_iff_left rules]
    exact divided.foremost_iff unsupported rfl

theorem Divided.head_iff (divided : policy.Divided source before after) {rest : List PolicyError}
    (found : policy.diagnostics source table = error :: rest) :
    (∀ other ∈ policy.diagnostics source table, error.UpTo other) ↔
      (policy.diagnostics source table).Pairwise PolicyError.UpTo := by
  have rules : (policy.rules.flatMap (Rule.diagnostics source table)).Pairwise PolicyError.UpTo :=
    divided.rules_ordered
  have behind : rest.Pairwise PolicyError.UpTo := by
    rcases diagnostics_cases policy source table with ⟨_, all⟩ | ⟨_, all⟩
    · exact (List.pairwise_cons.mp (all.symm.trans found ▸ rules)).2
    · exact (List.cons_eq_cons.mp (all.symm.trans found)).2 ▸ rules
  obtain ⟨place, located⟩ := diagnostics_position (found ▸ List.mem_cons_self)
  rw [found, List.forall_mem_cons, List.pairwise_cons, and_iff_left behind]
  exact and_iff_right ((PolicyError.upTo_iff located located).mpr le_rfl)

/-- The complaints about rules come in the order of the source. All of them do, and the first one is
at the earliest place, just when the version is supported or its form leads the rules that have
something wrong with them. -/
theorem diagnostics_ordered {parameters : Bindings}
    (parsed : Policy.parse source parameters = .ok policy) (table : OperationTable) :
    (∀ error ∈ policy.diagnostics source table, ∃ place, error.position? = some place) ∧
    (policy.rules.flatMap (Rule.diagnostics source table)).Pairwise PolicyError.UpTo ∧
    ((policy.diagnostics source table).Pairwise PolicyError.UpTo ↔
      policy.VersionLeads source table) ∧
    ∀ error, policy.validate source table = .error error →
      ((∀ other ∈ policy.diagnostics source table, error.UpTo other) ↔
        policy.VersionLeads source table) := by
  obtain ⟨before, after, divided⟩ := exists_divided parsed
  refine ⟨fun error => diagnostics_position, divided.rules_ordered, divided.ordered_iff, ?_⟩
  intro error failed
  obtain ⟨rest, found⟩ := validate_eq_error.mp failed
  exact (divided.head_iff found).trans divided.ordered_iff

set_option maxRecDepth 100000 in
theorem diagnostics_ordered_between :
    Policy.parse "(allow default)\n(version 9)\n(allow nope)" .empty =
      .ok ⟨9, ⟨16, 27⟩, [⟨.allow, ["default"], none, .none, ⟨0, 15⟩⟩,
        ⟨.allow, ["nope"], none, .none, ⟨28, 40⟩⟩]⟩ ∧
    (Policy.diagnostics ⟨9, ⟨16, 27⟩, [⟨.allow, ["default"], none, .none, ⟨0, 15⟩⟩,
        ⟨.allow, ["nope"], none, .none, ⟨28, 40⟩⟩]⟩ "(allow default)\n(version 9)\n(allow nope)"
      ⟨["default"], by decide, rfl, by decide⟩).Pairwise PolicyError.UpTo := by
  have parsed : Policy.parse "(allow default)\n(version 9)\n(allow nope)" .empty =
      .ok ⟨9, ⟨16, 27⟩, [⟨.allow, ["default"], none, .none, ⟨0, 15⟩⟩,
        ⟨.allow, ["nope"], none, .none, ⟨28, 40⟩⟩]⟩ := by cbv
  refine ⟨parsed, (diagnostics_ordered parsed _).2.2.1.mpr (.inr ?_)⟩
  have silent : Rule.diagnostics "(allow default)\n(version 9)\n(allow nope)"
      ⟨["default"], by decide, rfl, by decide⟩ ⟨.allow, ["default"], none, .none, ⟨0, 15⟩⟩ =
        [] := by cbv
  exact List.forall_mem_cons.mpr ⟨fun wrong => absurd silent wrong,
    List.forall_mem_singleton.mpr fun _ => by decide⟩

set_option maxRecDepth 100000 in
/-- The form of the version may stand behind a rule, and is complained about before it. -/
theorem diagnostics_out_of_order :
    ¬∀ (source : String) (parameters : Bindings) (policy : Policy) (table : OperationTable),
      Policy.parse source parameters = .ok policy →
      (policy.diagnostics source table).Pairwise PolicyError.UpTo := by
  intro ordered
  have parsed : Policy.parse "(allow nope)\n(version 9)" .empty =
      .ok ⟨9, ⟨13, 24⟩, [⟨.allow, ["nope"], none, .none, ⟨0, 12⟩⟩]⟩ := by cbv
  have found : Policy.diagnostics ⟨9, ⟨13, 24⟩, [⟨.allow, ["nope"], none, .none, ⟨0, 12⟩⟩]⟩
      "(allow nope)\n(version 9)" ⟨["default"], by decide, rfl, by decide⟩ =
        [.unsupportedVersion 9 ⟨2, 1⟩, .unknownOperation "nope" none ⟨1, 1⟩] := by cbv
  have upTo := ordered _ _ _ ⟨["default"], by decide, rfl, by decide⟩ parsed
  rw [found, List.pairwise_pair, PolicyError.upTo_iff rfl rfl] at upTo
  exact absurd upTo (by decide)

end Policy

end SandboxPolicy
