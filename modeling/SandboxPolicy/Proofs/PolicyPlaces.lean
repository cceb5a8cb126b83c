import Mathlib
import SandboxPolicy.Proofs.Forms
import SandboxPolicy.Proofs.Parsing

/-!
What places have to do with reading a policy: nothing but to say where an error is. Expressions that
differ only in their places make policies, or errors, that differ only in theirs.
-/

namespace SandboxPolicy

def PolicyError.placeless : PolicyError → PolicyError
  | .unreadable error => .unreadable ⟨error.fault, 0, default⟩
  | .invalidForm fault _ => .invalidForm fault default
  | .unsupportedVersion version _ => .unsupportedVersion version default
  | .unsupportedForm form _ => .unsupportedForm form default
  | .missingVersion => .missingVersion
  | .unknownOperation name suggestion _ => .unknownOperation name suggestion default
  | .unknownFilter name suggestion _ => .unknownFilter name suggestion default
  | .invalidArgument filter fault _ => .invalidArgument filter fault default
  | .invalidRegex pattern fault _ => .invalidRegex pattern fault default
  | .missingParameter name _ => .missingParameter name default

def Policy.bare (policy : Policy) : Policy where
  version := policy.version
  versionSpan := .zero
  rules := policy.rules.map Rule.bare

namespace Outcome

variable {α β γ : Type}

def placeless (outcome : Except PolicyError α) : Except PolicyError α :=
  outcome.mapError PolicyError.placeless

theorem map_bind {δ : Type} (change : β → δ) (first : Except PolicyError α)
    (next : α → Except PolicyError β) :
    (first >>= next).map change = first >>= fun value => (next value).map change := by
  cases first <;> rfl

theorem placeless_bind_map (strip : α → γ) {first : Except PolicyError α}
    {second : Except PolicyError γ} {next : α → Except PolicyError β}
    {other : γ → Except PolicyError β} (same : placeless (first.map strip) = placeless second)
    (onward : ∀ value, placeless (next value) = placeless (other (strip value))) :
    placeless (first >>= next) = placeless (second >>= other) := by
  cases first with
  | error error =>
      cases second with
      | error error' => exact congrArg Except.error (Except.error.inj same)
      | ok value => cases same
  | ok value =>
      cases second with
      | error error => cases same
      | ok value' =>
          obtain rfl : strip value = value' := Except.ok.inj same
          exact onward value

theorem placeless_bind {first second : Except PolicyError α} {next other : α → Except PolicyError β}
    (same : placeless first = placeless second)
    (onward : ∀ value, placeless (next value) = placeless (other value)) :
    placeless (first >>= next) = placeless (second >>= other) := by
  have same' : placeless (first.map id) = placeless second := by
    rw [← same]
    cases first <;> rfl
  exact placeless_bind_map id same' onward

theorem placeless_mapM {step : α → Except PolicyError β} {step' : γ → Except PolicyError β}
    (change : α → γ) (same : ∀ input, placeless (step input) = placeless (step' (change input)))
    (inputs : List α) :
    placeless (inputs.mapM step) = placeless ((inputs.map change).mapM step') := by
  induction inputs with
  | nil => rfl
  | cons first rest ih =>
      rw [List.map_cons, List.mapM_cons, List.mapM_cons]
      refine placeless_bind (same first) fun result => ?_
      exact placeless_bind ih fun results => rfl

theorem placeless_foldlM {step : β → α → Except PolicyError β}
    {step' : β → γ → Except PolicyError β} (strip : β → β) (change : α → γ)
    (same : ∀ state input, placeless ((step state input).map strip) =
      placeless (step' (strip state) (change input))) (state : β) (inputs : List α) :
    placeless ((inputs.foldlM step state).map strip) =
      placeless ((inputs.map change).foldlM step' (strip state)) := by
  induction inputs generalizing state with
  | nil => rfl
  | cons first rest ih =>
      rw [List.map_cons, List.foldlM_cons, List.foldlM_cons, map_bind]
      exact placeless_bind_map strip (same state first) ih

end Outcome

open Outcome

namespace SExpr

theorem bare_list (items : List SExpr) (span : Span) :
    (SExpr.list items span).bare = .list (items.map bare) .zero := by
  rw [bare, readAs, readItemsAs_eq_map]
  rfl

mutual

theorem print_bare : (expr : SExpr) → expr.bare.print = expr.print
  | .atom _ _ | .str _ _ | .regex _ _ => rfl
  | .list items span => by rw [bare_list, print, print, printItems_bare items]

theorem printItems_bare : (items : List SExpr) → printItems (items.map bare) = printItems items
  | [] => rfl
  | [item] => by rw [List.map_singleton, printItems, printItems, print_bare item]
  | item :: next :: rest => by
      have others := printItems_bare (next :: rest)
      rw [List.map_cons] at others
      rw [List.map_cons, List.map_cons, printItems, printItems, print_bare item, others]

end

theorem render_bare (expr : SExpr) : expr.bare.render = expr.render :=
  congrArg String.ofList (print_bare expr)

theorem text?_bare (expr : SExpr) : expr.bare.text? = expr.text? := by
  cases expr <;> rfl

theorem head?_bare (expr : SExpr) : expr.bare.head? = expr.head? := by
  match expr with
  | .atom _ _ | .str _ _ | .regex _ _ | .list [] _ => rfl
  | .list (.atom _ _ :: _) _ | .list (.str _ _ :: _) _ | .list (.regex _ _ :: _) _
  | .list (.list _ _ :: _) _ => rfl

end SExpr

namespace PolicySource

open SExpr (bare_list)

variable {source : PolicySource} {filter : String} {span : Span} {items : List SExpr}

def bare (source : PolicySource) : PolicySource := ⟨"", source.parameters⟩

/-! Texts and arguments. -/

theorem parameterValue_bare (arguments : List SExpr) (span : Span) :
    placeless (source.parameterValue arguments span) =
      placeless (source.bare.parameterValue (arguments.map SExpr.bare) .zero) := by
  match arguments with
  | [.str key keySpan] =>
      change placeless (source.parameterValue [.str key keySpan] span) =
        placeless (source.bare.parameterValue [.str key .zero] .zero)
      simp only [parameterValue, bare]
      cases source.parameters.get? key <;> rfl
  | [] | [.atom _ _] | [.regex _ _] | [.list _ _] => rfl
  | first :: _ :: _ => cases first <;> rfl

mutual

theorem textValue_bare : (expr : SExpr) →
    placeless (source.textValue filter expr) = placeless (source.bare.textValue filter expr.bare)
  | .str _ _ | .atom _ _ | .regex _ _ => rfl
  | .list (.atom head headSpan :: rest) span => by
      rw [bare_list, List.map_cons]
      change _ = placeless (source.bare.textValue filter
        (.list (.atom head .zero :: rest.map SExpr.bare) .zero))
      rw [textValue, textValue]
      split_ifs
      · exact parameterValue_bare rest span
      · exact placeless_bind (textValues_bare rest) fun texts => rfl
      · rfl
  | .list [] _ | .list (.str _ _ :: _) _ | .list (.regex _ _ :: _) _
  | .list (.list _ _ :: _) _ => rfl

theorem textValues_bare : (exprs : List SExpr) →
    placeless (source.textValues filter exprs) =
      placeless (source.bare.textValues filter (exprs.map SExpr.bare))
  | [] => rfl
  | expr :: rest => by
      rw [List.map_cons, textValues, textValues]
      refine placeless_bind (textValue_bare expr) fun text => ?_
      exact placeless_bind (textValues_bare rest) fun texts => rfl

end

theorem keywordArgument_bare (expr : SExpr) :
    placeless (source.keywordArgument filter expr) =
      placeless (source.bare.keywordArgument filter expr.bare) := by
  cases expr with
  | atom | str => rfl
  | regex text span => rfl
  | list items span =>
      have printed := SExpr.render_bare (.list items span)
      rw [bare_list] at printed ⊢
      simp only [keywordArgument, printed]
      rfl

theorem regexArgument_bare (expr : SExpr) :
    placeless (source.regexArgument filter expr) =
      placeless (source.bare.regexArgument filter expr.bare) := by
  have text := @textValue_bare source filter expr
  cases expr with
  | regex => rfl
  | atom | str | list => exact placeless_bind text fun value => rfl

theorem addressArgument_bare (span : Span) (items : List SExpr) :
    placeless (source.addressArgument filter span items) =
      placeless (source.bare.addressArgument filter .zero (items.map SExpr.bare)) := by
  match items with
  | [.atom protocol protocolSpan, address] =>
      change _ = placeless (source.bare.addressArgument filter .zero
        [.atom protocol .zero, address.bare])
      simp only [addressArgument]
      split_ifs
      · exact placeless_bind (textValue_bare address) fun value => rfl
      · rfl
  | [] | [.str _ _, _] | [.regex _ _, _] | [.list _ _, _] => rfl
  | [first] | first :: _ :: _ :: _ => cases first <;> rfl

theorem arguments_bare (kind : ArgumentKind) (span : Span) (items : List SExpr) :
    placeless (source.arguments filter kind span items) =
      placeless (source.bare.arguments filter kind .zero (items.map SExpr.bare)) := by
  cases kind with
  | address => exact placeless_bind (addressArgument_bare span items) fun argument => rfl
  | keyword values => exact placeless_mapM _ keywordArgument_bare items
  | regex => exact placeless_mapM _ regexArgument_bare items
  | path | name | entitlement =>
      exact placeless_mapM _ (fun item => placeless_bind (textValue_bare item) fun _ => rfl) items

/-! Filters. -/

theorem leaf_bare (name : String) (nameSpan span : Span) (items : List SExpr) :
    placeless (source.leaf name nameSpan span items) =
      placeless (source.bare.leaf name .zero .zero (items.map SExpr.bare)) := by
  rw [leaf, leaf]
  cases Catalogue.byName? name with
  | none => rfl
  | some known =>
      dsimp only
      rw [List.isEmpty_map]
      split_ifs
      · rfl
      · exact placeless_bind (arguments_bare known.kind span items) fun arguments => rfl

mutual

theorem filter_bare : (expr : SExpr) →
    placeless (source.filter expr) = placeless (source.bare.filter expr.bare)
  | .list (.atom head headSpan :: items) span => by
      rw [bare_list, List.map_cons]
      change _ = placeless (source.bare.filter
        (.list (.atom head .zero :: items.map SExpr.bare) .zero))
      rw [filter_list, filter_list, List.isEmpty_map]
      split_ifs
      · rfl
      · exact placeless_bind (filters_bare items) fun filters => rfl
      · exact placeless_bind (filters_bare items) fun filters => rfl
      · match items with
        | [item] => exact placeless_bind (filter_bare item) fun inner => rfl
        | [] | _ :: _ :: _ => rfl
      · exact leaf_bare head headSpan span items
  | .atom _ _ | .str _ _ | .regex _ _ | .list [] _ | .list (.str _ _ :: _) _
  | .list (.regex _ _ :: _) _ | .list (.list _ _ :: _) _ => rfl

theorem filters_bare : (items : List SExpr) →
    placeless (source.filters items) = placeless (source.bare.filters (items.map SExpr.bare))
  | [] => rfl
  | item :: rest => by
      rw [List.map_cons, filters, filters]
      refine placeless_bind (filter_bare item) fun first => ?_
      exact placeless_bind (filters_bare rest) fun others => rfl

end

/-! Rules and other forms. -/

theorem modifiersFrom_bare (items : List SExpr) :
    placeless (source.modifiersFrom items) =
      placeless (source.bare.modifiersFrom (items.map SExpr.bare)) := by
  induction items with
  | nil => rfl
  | cons item rest ih =>
      rw [List.map_cons, modifiersFrom, modifiersFrom, SExpr.text?_bare, SExpr.render_bare]
      cases item.text?.bind Modifiers.ofKeyword? with
      | none => rfl
      | some modifier => exact placeless_bind ih fun others => rfl

theorem addItem_bare (parts : RuleParts) (item : SExpr) :
    placeless (source.addItem parts item) =
      placeless (source.bare.addItem parts item.bare) := by
  cases item with
  | atom name span =>
      change _ = placeless (source.bare.addItem parts (.atom name .zero))
      rw [addItem, addItem]
      split_ifs <;> rfl
  | str | regex => rfl
  | list items span =>
      have head := SExpr.head?_bare (.list items span)
      have whole := @filter_bare source (.list items span)
      rw [bare_list] at head whole ⊢
      rw [addItem, addItem, head, List.length_map, ← List.map_tail]
      split_ifs
      · rfl
      · exact placeless_bind (modifiersFrom_bare items.tail) fun modifiers => rfl
      · exact placeless_bind whole fun filter => rfl

theorem addItems_bare (parts : RuleParts) (items : List SExpr) :
    placeless (items.foldlM source.addItem parts) =
      placeless ((items.map SExpr.bare).foldlM source.bare.addItem parts) := by
  induction items generalizing parts with
  | nil => rfl
  | cons item rest ih =>
      rw [List.map_cons, List.foldlM_cons, List.foldlM_cons]
      exact placeless_bind (addItem_bare parts item) ih

theorem rule_bare (action : Action) (items : List SExpr) (span : Span) :
    placeless ((source.rule action items span).map Rule.bare) =
      placeless (source.bare.rule action (items.map SExpr.bare) .zero) := by
  rw [rule, rule, map_bind]
  refine placeless_bind (addItems_bare _ items) fun parts => ?_
  split_ifs <;> rfl

theorem version_bare (span : Span) (items : List SExpr) :
    placeless (source.version span items) =
      placeless (source.bare.version .zero (items.map SExpr.bare)) := by
  match items with
  | [.atom text textSpan] =>
      change placeless (source.version span [.atom text textSpan]) =
        placeless (source.bare.version .zero [.atom text .zero])
      rw [version, version]
      cases readNumber 0xffffffff text <;> rfl
  | [] | [.str _ _] | [.regex _ _] | [.list _ _] => rfl
  | first :: _ :: _ => cases first <;> rfl

def PolicyParts.bare (parts : PolicyParts) : PolicyParts where
  version := parts.version.map fun version => (version.1, .zero)
  rules := parts.rules.map Rule.bare

theorem addForm_bare (parts : PolicyParts) (form : SExpr) :
    placeless ((source.addForm parts form).map PolicyParts.bare) =
      placeless (source.bare.addForm parts.bare form.bare) := by
  match form with
  | .list (.atom head headSpan :: items) span =>
      rw [bare_list, List.map_cons]
      change _ = placeless (source.bare.addForm parts.bare
        (.list (.atom head .zero :: items.map SExpr.bare) .zero))
      have once : parts.bare.version.isSome = parts.version.isSome := Option.isSome_map
      rw [addForm, addForm, once]
      by_cases versioned : head = "version"
      · rw [if_pos versioned, if_pos versioned]
        split_ifs
        · rfl
        · rw [map_bind]
          exact placeless_bind (version_bare span items) fun version => rfl
      · rw [if_neg versioned, if_neg versioned]
        cases Action.ofName? head with
        | some action =>
            dsimp only
            rw [map_bind]
            exact placeless_bind_map Rule.bare (rule_bare action items span) fun rule => rfl
        | none =>
            dsimp only
            split_ifs <;> rfl
  | .list [] _ | .list (.str _ _ :: _) _ | .list (.regex _ _ :: _) _
  | .list (.list _ _ :: _) _ | .atom _ _ | .str _ _ | .regex _ _ => rfl

theorem policy_bare (forms : List SExpr) :
    placeless ((source.policy forms).map Policy.bare) =
      placeless (source.bare.policy (forms.map SExpr.bare)) := by
  rw [policy, policy, map_bind]
  refine placeless_bind_map PolicyParts.bare
    (placeless_foldlM PolicyParts.bare SExpr.bare addForm_bare _ forms) fun parts => ?_
  cases found : parts.version with
  | none => simp [PolicyParts.bare, found, Except.map]
  | some version =>
      simp only [PolicyParts.bare, found, Option.map_some, ← List.map_reverse]
      rfl

end PolicySource

/-- Sources whose expressions differ only in their places are read alike. -/
theorem Policy.parse_bare {first second : String} {exprs others : List SExpr}
    (parsed : SExpr.parse first = .ok exprs) (parsed' : SExpr.parse second = .ok others)
    (same : exprs.map SExpr.bare = others.map SExpr.bare) (parameters : Bindings) :
    placeless ((Policy.parse first parameters).map Policy.bare) =
      placeless ((Policy.parse second parameters).map Policy.bare) := by
  have read {text : String} {forms : List SExpr} (found : SExpr.parse text = .ok forms) :
      placeless ((Policy.parse text parameters).map Policy.bare) =
        placeless ((PolicySource.mk "" parameters).policy (forms.map SExpr.bare)) := by
    rw [Policy.parse, found]
    exact PolicySource.policy_bare forms
  rw [read parsed, read parsed', same]

end SandboxPolicy
