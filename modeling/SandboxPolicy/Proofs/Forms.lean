import SandboxPolicy.Policy.Basic
import SandboxPolicy.Proofs.Printing

/-!
Policies as expressions. The printed form of a rule is the printed form of an expression, and so is
that of each condition and argument in it. Expressions that can be printed and come back as they
were are faithful; a text that spells faithful expressions is read as these.
-/

namespace SandboxPolicy

def Token.Faithful : Token → Prop
  | .opening _ | .closing _ => True
  | .atom text _ => IsAtom text.toList
  | .str text _ => ∀ c ∈ text.toList, IsEchoed c
  | .regex text _ => IsBody text.toList

namespace SExpr

variable {expr : SExpr} {items : List SExpr} {text : String} {span : Span}

theorem bare_eq_atom : expr.bare = .atom text .zero ↔ ∃ span, expr = .atom text span := by
  cases expr <;> simp [bare, readAs]

theorem bare_eq_str : expr.bare = .str text .zero ↔ ∃ span, expr = .str text span := by
  cases expr <;> simp [bare, readAs]

theorem bare_eq_regex : expr.bare = .regex text .zero ↔ ∃ span, expr = .regex text span := by
  cases expr <;> simp [bare, readAs]

theorem bare_eq_list :
    expr.bare = .list items .zero ↔
      ∃ inner span, expr = .list inner span ∧ inner.map bare = items := by
  have listed (inner : List SExpr) : readItemsAs id inner = inner.map bare :=
    readItemsAs_eq_map inner
  cases expr <;> simp [bare, readAs, listed]

theorem bare_eq_form {head : String} :
    expr.bare = .list (.atom head .zero :: items) .zero ↔
      ∃ headSpan inner span, expr = .list (.atom head headSpan :: inner) span ∧
        inner.map bare = items := by
  rw [bare_eq_list]
  constructor
  · rintro ⟨inner, span, rfl, same⟩
    obtain ⟨first, rest, rfl, named, same'⟩ := List.map_eq_cons_iff.mp same
    obtain ⟨headSpan, rfl⟩ := bare_eq_atom.mp named
    exact ⟨headSpan, rest, span, rfl, same'⟩
  · rintro ⟨headSpan, inner, span, rfl, rfl⟩
    exact ⟨.atom head headSpan :: inner, span, rfl, rfl⟩

theorem printItems_cons (item : SExpr) (rest : List SExpr) :
    printItems (item :: rest) = item.print ++ rest.flatMap fun next => ' ' :: next.print := by
  induction rest generalizing item with
  | nil => simp [printItems]
  | cons next rest ih => rw [printItems, ih, List.flatMap_cons, List.cons_append]

/-- The expression has no place of its own, can be printed and comes back as it was. -/
structure Faithful (expr : SExpr) : Prop where
  placeless : expr.bare = expr
  tokens : ∀ token ∈ expr.tokens, token.Faithful

theorem Faithful.legible (faithful : expr.Faithful) : expr.Legible := by
  intro token member
  have known := faithful.tokens token member
  cases token with
  | opening | closing | str => trivial
  | atom | regex => exact known

theorem Faithful.reread (faithful : expr.Faithful) : expr.reread = expr :=
  (reread_eq_bare_iff.mpr fun _ member => faithful.tokens _ member).trans faithful.placeless

theorem faithful_atom (isAtom : IsAtom text.toList) : (SExpr.atom text .zero).Faithful :=
  ⟨rfl, List.forall_mem_singleton.mpr isAtom⟩

theorem faithful_str (echoed : ∀ c ∈ text.toList, IsEchoed c) : (SExpr.str text .zero).Faithful :=
  ⟨rfl, List.forall_mem_singleton.mpr echoed⟩

theorem faithful_regex (isBody : IsBody text.toList) : (SExpr.regex text .zero).Faithful :=
  ⟨rfl, List.forall_mem_singleton.mpr isBody⟩

theorem faithful_items (faithful : ∀ item ∈ items, item.Faithful) :
    readItemsAs id items = items ∧ ∀ token ∈ itemTokens items, token.Faithful := by
  induction items with
  | nil => simp [readItemsAs, itemTokens]
  | cons first rest ih =>
      rw [List.forall_mem_cons] at faithful
      obtain ⟨placeless, tokens⟩ := ih faithful.2
      constructor
      · rw [readItemsAs, placeless]
        exact congrArg (· :: rest) faithful.1.placeless
      · exact List.forall_mem_append.mpr ⟨faithful.1.tokens, tokens⟩

theorem faithful_form {head : String} (isAtom : IsAtom head.toList)
    (faithful : ∀ item ∈ items, item.Faithful) :
    (SExpr.list (.atom head .zero :: items) .zero).Faithful := by
  have all := List.forall_mem_cons.mpr ⟨faithful_atom isAtom, faithful⟩
  obtain ⟨placeless, inside⟩ := faithful_items all
  constructor
  · rw [bare, readAs, placeless]
  · intro token member
    rcases List.mem_cons.mp member with rfl | member
    · trivial
    · rcases List.mem_append.mp member with member | member
      · exact inside token member
      · exact List.mem_singleton.mp member ▸ trivial

theorem yields_lines (exprs : List SExpr) (faithful : ∀ expr ∈ exprs, expr.Faithful) :
    Scan.between.Yields (exprs.flatMap fun expr => '\n' :: expr.print) (itemTokens exprs) := by
  induction exprs with
  | nil => exact .end
  | cons expr rest ih =>
      rw [List.forall_mem_cons] at faithful
      have apart : EndsAtom (rest.flatMap fun next => '\n' :: next.print) := by
        cases rest <;> simp [EndsAtom]
      have printed := yields_print expr faithful.1.legible apart (ih faithful.2)
      rw [faithful.1.reread] at printed
      exact printed.blank (by decide)

theorem exists_parse_of_yields {exprs : List SExpr}
    (yields : Scan.between.Yields text.toList (itemTokens exprs))
    (faithful : ∀ expr ∈ exprs, expr.Faithful) :
    ∃ again, parse text = .ok again ∧ again.map bare = exprs := by
  obtain ⟨found, scanned, spelled⟩ := yields 0
  obtain ⟨again, later, same, after, assembled⟩ :=
    assemble_itemTokens exprs found (by rw [spelled, List.append_nil])
  obtain rfl : later = [] := List.map_eq_nil_iff.mp after
  refine ⟨again, parse_eq_ok.mpr ⟨found, scanned, ?_⟩, ?_⟩
  · rw [assembled, List.append_nil, assemble, List.reverse_reverse]
  · rw [(faithful_items faithful).1, readItemsAs_eq_map] at same
    exact same

end SExpr

/-! The printed form as an expression. -/

def Argument.exprs : Argument → List SExpr
  | .path value | .name value | .entitlement value => [.str value .zero]
  | .regex value => [.regex value .zero]
  | .keyword value => [.atom value .zero]
  | .address value => [.atom "ip" .zero, .str value .zero]

mutual

def Filter.expr : Filter → SExpr
  | .leaf name argument => .list (.atom name .zero :: argument.exprs) .zero
  | .all items => .list (.atom "require-all" .zero :: Filter.exprsOf items) .zero
  | .any items => .list (.atom "require-any" .zero :: Filter.exprsOf items) .zero
  | .not item => .list [.atom "require-not" .zero, item.expr] .zero

def Filter.exprsOf : List Filter → List SExpr
  | [] => []
  | item :: rest => item.expr :: Filter.exprsOf rest

end

def atomsOf (names : List String) : List SExpr := names.map fun name => .atom name .zero

def Modifiers.exprs (modifiers : Modifiers) : List SExpr :=
  if modifiers.isEmpty then []
  else [.list (.atom "with" .zero :: atomsOf modifiers.names) .zero]

def Rule.exprs (rule : Rule) : List SExpr :=
  atomsOf rule.operations ++ ((rule.filter.map Filter.expr).toList ++ rule.modifiers.exprs)

def Rule.expr (rule : Rule) : SExpr := .list (.atom rule.action.name .zero :: rule.exprs) .zero

def Policy.versionExpr (policy : Policy) : SExpr :=
  .list [.atom "version" .zero, .atom (toString policy.version.toNat) .zero] .zero

def Policy.render (policy : Policy) : String :=
  "(version " ++ toString policy.version.toNat ++ ")" ++
    String.join (policy.rules.map fun rule => "\n" ++ rule.render)

def Rule.bare (rule : Rule) : Rule := { rule with span := .zero }

theorem Argument.print_exprs (argument : Argument) :
    argument.exprs.flatMap (fun item => ' ' :: item.print) = ' ' :: argument.render.toList := by
  cases argument <;> simp [exprs, render, SExpr.print, quoted]

mutual

theorem Filter.print_expr : (guard : Filter) → guard.expr.print = guard.render.toList
  | .leaf name argument => by
      simp [expr, render, SExpr.print, SExpr.printItems_cons, argument.print_exprs]
  | .all items | .any items => by
      have inside := print_exprsOf items
      simp [expr, render, SExpr.print, SExpr.printItems_cons, inside]
  | .not item => by
      have inside := item.print_expr
      simp [expr, render, SExpr.print, SExpr.printItems_cons, inside]

theorem Filter.print_exprsOf : (items : List Filter) →
    (exprsOf items).flatMap (fun item => ' ' :: item.print) = (renderItems items).toList
  | [] => by simp [exprsOf, renderItems]
  | item :: rest => by
      have first := item.print_expr
      have others := print_exprsOf rest
      simp [exprsOf, renderItems, first, others]

end

theorem print_atomsOf {names : List String} (some : names ≠ []) :
    (atomsOf names).flatMap (fun item => ' ' :: item.print) =
      ' ' :: (" ".intercalate names).toList := by
  induction names with
  | nil => exact absurd rfl some
  | cons name rest ih =>
      cases rest with
      | nil => simp [atomsOf, SExpr.print]
      | cons next rest =>
          have later := ih (List.cons_ne_nil _ _)
          rw [atomsOf, List.map_cons, List.flatMap_cons, ← atomsOf, later]
          simp [SExpr.print]

theorem Modifiers.names_ne_nil {modifiers : Modifiers} (filled : modifiers.isEmpty = false) :
    modifiers.names ≠ [] := by
  rcases modifiers with ⟨report, noLog⟩
  cases report <;> cases noLog <;> simp_all [isEmpty, names]

theorem Modifiers.print_exprs (modifiers : Modifiers) :
    modifiers.exprs.flatMap (fun item => ' ' :: item.print) =
      (if modifiers.isEmpty then ""
        else " (with " ++ " ".intercalate modifiers.names ++ ")").toList := by
  rw [exprs]
  cases filled : modifiers.isEmpty with
  | true => simp
  | false =>
      have printed := print_atomsOf (names_ne_nil filled)
      simp [SExpr.print, SExpr.printItems_cons, printed]

theorem Rule.print_expr {rule : Rule} (named : rule.operations ≠ []) :
    rule.expr.print = rule.render.toList := by
  have operations := print_atomsOf named
  have modifiers := rule.modifiers.print_exprs
  cases guarded : rule.filter with
  | none =>
      simp [expr, render, exprs, SExpr.print, SExpr.printItems_cons, operations, modifiers, guarded]
  | some guard =>
      have printed := guard.print_expr
      simp [expr, render, exprs, SExpr.print, SExpr.printItems_cons, operations, modifiers,
        guarded, printed]

end SandboxPolicy
