import SandboxPolicy.Proofs.FormReading

/-!
Policies in print. The texts of a valid policy are the only part of it that may not come back from
its printed form; when they can be printed, the printed policy is a source of the same policy.
-/

namespace SandboxPolicy

/-- The text of the argument comes back when it is quoted, or can stand between the marks of a
regular expression. -/
def Argument.Printable : Argument → Prop
  | .path value | .name value | .address value | .entitlement value =>
      ∀ c ∈ value.toList, IsEchoed c
  | .regex value => IsBody value.toList
  | .keyword _ => True

def ArgumentKind.values : ArgumentKind → List String
  | .keyword values => values
  | _ => []

instance (text : List Char) : Decidable (IsAtom text) :=
  decidable_of_iff (text.all isAtomChar = true ∧ text.head?.any (!isBlank ·) = true) (by
    rw [List.all_eq_true]
    constructor
    · rintro ⟨chars, begins⟩
      match text, begins with
      | c :: rest, begins => exact ⟨chars, c, rest, rfl, by simpa using begins⟩
    · rintro ⟨chars, c, rest, rfl, solid⟩
      exact ⟨chars, by simp [solid]⟩)

theorem Catalogue.isAtom_texts : ∀ known ∈ filters,
    IsAtom known.name.toList ∧ ∀ value ∈ known.kind.values, IsAtom value.toList := by
  decide

theorem isAtom_words : ∀ word ∈ ["version", "allow", "deny", "require-all", "require-any",
    "require-not", "ip", "with", "report", "no-log"], IsAtom word.toList := by
  decide

theorem isAtomChar_digit {c : Char} (digit : isDigit c = true) :
    isAtomChar c = true ∧ isBlank c = false := by
  have each : ∀ code < 58, 48 ≤ code →
      isAtomChar (Char.ofNat code) = true ∧ isBlank (Char.ofNat code) = false := by
    decide
  have bounds : 48 ≤ c.toNat ∧ c.toNat ≤ 57 := by
    simpa [isDigit, Char.le_def, UInt32.le_iff_toNat_le] using digit
  rw [← Char.ofNat_toNat c]
  exact each c.toNat (by omega) bounds.1

theorem isAtom_number (number : Nat) : IsAtom (toString number).toList := by
  have digits := isDigit_of_mem_number number
  cases text : (toString number).toList with
  | nil => exact absurd text (number_ne_nil number)
  | cons c rest =>
      rw [text] at digits
      have first := isAtomChar_digit (digits c List.mem_cons_self)
      exact ⟨fun d member => (isAtomChar_digit (digits d member)).1, c, rest, rfl, first.2⟩

theorem checkArgument_keyword {name value : String}
    (checked : checkArgument name (.keyword value) = .ok ()) :
    ∃ known, Catalogue.byName? name = some known ∧ value ∈ known.kind.values := by
  rw [checkArgument] at checked
  split at checked
  next => cases checked
  next known found =>
    refine ⟨known, found, ?_⟩
    cases kind : known.kind with
    | keyword values =>
        simp only [kind, checkKeyword] at checked
        split at checked
        next listed => exact listed
        next => cases checked
    | path | regex | name | address | entitlement => simp [kind] at checked

theorem Argument.faithful_exprs {argument : Argument} {name : String}
    (checked : checkArgument name argument = .ok ()) (printable : argument.Printable) :
    ∀ item ∈ argument.exprs, item.Faithful := by
  cases argument with
  | path value | name value | entitlement value =>
      exact List.forall_mem_singleton.mpr (SExpr.faithful_str printable)
  | regex value => exact List.forall_mem_singleton.mpr (SExpr.faithful_regex printable)
  | address value =>
      refine List.forall_mem_cons.mpr ⟨SExpr.faithful_atom (isAtom_words _ (by simp)), ?_⟩
      exact List.forall_mem_singleton.mpr (SExpr.faithful_str printable)
  | keyword value =>
      obtain ⟨known, found, listed⟩ := checkArgument_keyword checked
      have texts := Catalogue.isAtom_texts known (List.mem_of_find?_eq_some found)
      exact List.forall_mem_singleton.mpr (SExpr.faithful_atom (texts.2 value listed))

mutual

theorem Filter.faithful_expr : (guard : Filter) → guard.Valid →
    (∀ leaf ∈ guard.leaves, leaf.2.Printable) → guard.expr.Faithful
  | .leaf name argument, valid, printable => by
      have checked := valid (name, argument) (List.mem_singleton_self _)
      have inside := Argument.faithful_exprs checked (printable _ (List.mem_singleton_self _))
      obtain ⟨known, found, _⟩ := checkArgument_suits checked
      have texts := Catalogue.isAtom_texts known (List.mem_of_find?_eq_some found)
      rw [Catalogue.byName?_name found] at texts
      exact SExpr.faithful_form texts.1 inside
  | .all items, valid, printable | .any items, valid, printable =>
      SExpr.faithful_form (isAtom_words _ (by simp)) (faithful_exprsOf items valid printable)
  | .not item, valid, printable => by
      have inside := item.faithful_expr valid printable
      exact SExpr.faithful_form (isAtom_words _ (by simp)) (List.forall_mem_singleton.mpr inside)

theorem Filter.faithful_exprsOf : (items : List Filter) →
    (∀ leaf ∈ leavesOf items, checkArgument leaf.1 leaf.2 = .ok ()) →
    (∀ leaf ∈ leavesOf items, leaf.2.Printable) → ∀ item ∈ exprsOf items, item.Faithful
  | [], _, _ => by simp [exprsOf]
  | item :: rest, valid, printable => by
      rw [leavesOf, List.forall_mem_append] at valid printable
      exact List.forall_mem_cons.mpr ⟨item.faithful_expr valid.1 printable.1,
        faithful_exprsOf rest valid.2 printable.2⟩

end

theorem faithful_atomsOf {names : List String} (atoms : ∀ name ∈ names, IsAtom name.toList) :
    ∀ item ∈ atomsOf names, item.Faithful := by
  intro item member
  obtain ⟨name, listed, rfl⟩ := List.mem_map.mp member
  exact SExpr.faithful_atom (atoms name listed)

theorem Modifiers.faithful_exprs (modifiers : Modifiers) :
    ∀ item ∈ modifiers.exprs, item.Faithful := by
  have names : ∀ name ∈ modifiers.names, IsAtom name.toList := by
    intro name member
    apply isAtom_words
    rcases modifiers with ⟨reported, unlogged⟩
    cases reported <;> cases unlogged <;> revert name <;> decide
  rw [exprs]
  split
  next => simp
  next =>
    have isAtom : IsAtom "with".toList := isAtom_words _ (by simp)
    exact List.forall_mem_singleton.mpr (SExpr.faithful_form isAtom (faithful_atomsOf names))

theorem Rule.faithful_expr {table : OperationTable} {rule : Rule} (written : rule.Written)
    (valid : rule.Valid table)
    (printable : ∀ guard, rule.filter = some guard → ∀ leaf ∈ guard.leaves, leaf.2.Printable) :
    rule.expr.Faithful := by
  have action : IsAtom rule.action.name.toList := by
    apply isAtom_words
    cases rule.action <;> simp [Action.name]
  have guards : ∀ item ∈ (rule.filter.map Filter.expr).toList, item.Faithful := by
    intro item member
    obtain ⟨guard, known, rfl⟩ := Option.map_eq_some_iff.mp (Option.mem_toList.mp member)
    exact guard.faithful_expr (valid.filter guard known) (printable guard known)
  refine SExpr.faithful_form action ?_
  rw [Rule.exprs, List.forall_mem_append, List.forall_mem_append]
  exact ⟨faithful_atomsOf written.atoms, guards, rule.modifiers.faithful_exprs⟩

theorem Policy.faithful_versionExpr (policy : Policy) : policy.versionExpr.Faithful :=
  SExpr.faithful_form (isAtom_words _ (by simp))
    (List.forall_mem_singleton.mpr (SExpr.faithful_atom (isAtom_number policy.version.toNat)))

theorem Policy.print_exprs {policy : Policy} (written : ∀ rule ∈ policy.rules, rule.Written) :
    policy.versionExpr.print ++
        (policy.rules.map Rule.expr).flatMap (fun form => '\n' :: form.print) =
      policy.render.toList := by
  have lines : (policy.rules.map Rule.expr).flatMap (fun form => '\n' :: form.print) =
      policy.rules.flatMap fun rule => '\n' :: rule.render.toList := by
    rw [List.flatMap_map]
    exact List.flatMap_congr fun rule member => by rw [Rule.print_expr (written rule member).named]
  simp [render, versionExpr, SExpr.print, SExpr.printItems_cons, lines, List.flatMap_map]

/-- A policy that was read and has nothing wrong with it is printed as a source of the same policy,
when its texts can be printed. -/
theorem Policy.render_reads_back {text : String} {parameters : Bindings} {policy : Policy}
    {source : String} {table : OperationTable}
    (parsed : Policy.parse text parameters = .ok policy)
    (silent : policy.diagnostics source table = [])
    (printable : ∀ leaf ∈ policy.leaves, leaf.2.Printable) :
    ∃ again, Policy.parse policy.render .empty = .ok again ∧ again.version = policy.version ∧
      again.rules.map Rule.bare = policy.rules.map Rule.bare := by
  have written := Policy.parse_written parsed
  have valid := Policy.diagnostics_nil silent
  have rules : ∀ form ∈ policy.rules.map Rule.expr, form.Faithful := by
    intro form member
    obtain ⟨rule, listed, rfl⟩ := List.mem_map.mp member
    refine Rule.faithful_expr (written rule listed) (valid rule listed) ?_
    intro guard known leaf inside
    exact printable leaf (List.mem_flatMap.mpr ⟨rule, listed, by simpa [known] using inside⟩)
  have version := policy.faithful_versionExpr
  have apart : EndsAtom ((policy.rules.map Rule.expr).flatMap fun form => '\n' :: form.print) := by
    cases policy.rules <;> simp [EndsAtom]
  have printed := SExpr.yields_print policy.versionExpr version.legible apart
    (SExpr.yields_lines _ rules)
  rw [version.reread, Policy.print_exprs written] at printed
  obtain ⟨forms, read, same⟩ := SExpr.exists_parse_of_yields printed
    (List.forall_mem_cons.mpr ⟨version, rules⟩)
  rw [Policy.parse, read]
  exact PolicySource.policy_of_bare written valid same

set_option maxRecDepth 100000 in
theorem Policy.render_reads_back_paths :
    Policy.check ⟨["default"], by decide, rfl, by decide⟩
        "(version 1) (allow default (literal \"/a\\n\" \"/b\") (with no-log))" .empty =
      .ok ⟨1, ⟨0, 11⟩, [⟨.allow, ["default"],
        some (.any [.leaf "literal" (.path "/a\n"), .leaf "literal" (.path "/b")]),
        ⟨false, true⟩, ⟨12, 63⟩⟩]⟩ ∧
    ∃ again, Policy.parse (Policy.render ⟨1, ⟨0, 11⟩, [⟨.allow, ["default"],
        some (.any [.leaf "literal" (.path "/a\n"), .leaf "literal" (.path "/b")]),
        ⟨false, true⟩, ⟨12, 63⟩⟩]⟩) .empty = .ok again ∧ again.version = 1 ∧
      again.rules.map Rule.bare = [⟨.allow, ["default"],
        some (.any [.leaf "literal" (.path "/a\n"), .leaf "literal" (.path "/b")]),
        ⟨false, true⟩, .zero⟩] := by
  have checked : Policy.check ⟨["default"], by decide, rfl, by decide⟩
      "(version 1) (allow default (literal \"/a\\n\" \"/b\") (with no-log))" .empty =
        .ok ⟨1, ⟨0, 11⟩, [⟨.allow, ["default"],
          some (.any [.leaf "literal" (.path "/a\n"), .leaf "literal" (.path "/b")]),
          ⟨false, true⟩, ⟨12, 63⟩⟩]⟩ := by cbv
  obtain ⟨parsed, silent⟩ := Policy.check_eq_ok.mp checked
  have echoed : ∀ text ∈ ["/a\n", "/b"], text.toList.all (Decidable.decide <| IsEchoed ·) =
      true := by
    decide +kernel
  have paths : ∀ text ∈ ["/a\n", "/b"], (Argument.path text).Printable := by
    intro text member c inside
    exact of_decide_eq_true (List.all_eq_true.mp (echoed text member) c inside)
  have printable : ∀ leaf ∈ [("literal", Argument.path "/a\n"), ("literal", .path "/b")],
      leaf.2.Printable :=
    List.forall_mem_cons.mpr
      ⟨paths _ (by simp), List.forall_mem_singleton.mpr (paths _ (by simp))⟩
  exact ⟨checked, Policy.render_reads_back parsed silent printable⟩

end SandboxPolicy
