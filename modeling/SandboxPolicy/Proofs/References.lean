import Mathlib
import SandboxPolicy.Proofs.Parsing

/-!
References to parameters. What an expression denotes, and so the policy or the complaint that is
read, depends on the values of those parameters only to which an expression refers.
-/

namespace SandboxPolicy

namespace SExpr

variable {parameters : Bindings}

def parameter? : SExpr → Option String
  | .list [.atom head _, .str key _] _ => if head = "param" then some key else none
  | _ => none

/-- The expression stands for a text that is not written out: it is a reference to a parameter, or
puts texts together. -/
def refers (expr : SExpr) : Bool :=
  expr.parameter?.isSome || expr.head? == some "string-append"

mutual

def denoted (parameters : Bindings) : SExpr → String
  | .str text _ => text
  | .list (head :: parts) span =>
      match (SExpr.list (head :: parts) span).parameter? with
      | some key => (parameters.get? key).getD ""
      | none => denotedParts parameters parts
  | _ => ""

def denotedParts (parameters : Bindings) : List SExpr → String
  | [] => ""
  | part :: rest => part.denoted parameters ++ denotedParts parameters rest

end

mutual

/-- The expression with the texts that are referred to in their places. What is for debugging only
stays as it is. -/
def inlined (parameters : Bindings) : SExpr → SExpr
  | .list items span =>
      if (SExpr.list items span).refers then
        .str ((SExpr.list items span).denoted parameters) span
      else if (SExpr.list items span).head? = some "debug" then .list items span
      else .list (inlinedItems parameters items) span
  | expr => expr

def inlinedItems (parameters : Bindings) : List SExpr → List SExpr
  | [] => []
  | item :: rest => item.inlined parameters :: inlinedItems parameters rest

end

mutual

def references : SExpr → List SExpr
  | .list items span =>
      if (SExpr.list items span).refers then [.list items span]
      else if (SExpr.list items span).head? = some "debug" then []
      else referencesIn items
  | _ => []

def referencesIn : List SExpr → List SExpr
  | [] => []
  | item :: rest => item.references ++ referencesIn rest

end

mutual

def keys : SExpr → List String
  | .list items span =>
      match (SExpr.list items span).parameter? with
      | some key => [key]
      | none => if (SExpr.list items span).head? = some "debug" then [] else keysIn items
  | _ => []

def keysIn : List SExpr → List String
  | [] => []
  | item :: rest => item.keys ++ keysIn rest

end

theorem inlinedItems_eq_map (items : List SExpr) :
    inlinedItems parameters items = items.map (inlined parameters) := by
  induction items with
  | nil => rfl
  | cons item rest ih => rw [inlinedItems, ih, List.map_cons]

variable {head : String} {headSpan span : Span} {items : List SExpr}

theorem parameter?_of_head (other : head ≠ "param") :
    parameter? (.list (.atom head headSpan :: items) span) = none := by
  match items with
  | [.str key keySpan] => exact if_neg other
  | [] | [.atom _ _] | [.regex _ _] | [.list _ _] => rfl
  | first :: _ :: _ => cases first <;> rfl

theorem keys_form (noParameter : head ≠ "param") (noDebug : head ≠ "debug") :
    keys (.list (.atom head headSpan :: items) span) = keysIn items := by
  rw [keys, parameter?_of_head noParameter, head?, if_neg (by simpa using noDebug), keysIn]
  exact List.nil_append _

/-- The heads of expressions that are not replaced item by item, and the number sign. -/
def reservedHeads : List String := ["#", "param", "string-append", "debug"]

theorem byName?_reserved (reserved : head ∈ reservedHeads) : Catalogue.byName? head = none := by
  have each : ∀ head ∈ reservedHeads, Catalogue.byName? head = none := by decide
  exact each head reserved

theorem ofName?_reserved (reserved : head ∈ reservedHeads) : Action.ofName? head = none := by
  have each : ∀ head ∈ reservedHeads, Action.ofName? head = none := by decide
  exact each head reserved

end SExpr

/-! What is read depends on the values of these keys. -/

def Bindings.AgreeOn (parameters others : Bindings) (keys : List String) : Prop :=
  ∀ key ∈ keys, parameters.get? key = others.get? key

namespace PolicySource

open SExpr

def under (source : PolicySource) (parameters : Bindings) : PolicySource :=
  ⟨source.text, parameters⟩

variable {source : PolicySource} {others : Bindings} {filter : String} {span : Span}
  {items : List SExpr}

theorem agreeOn_cons {item : SExpr} {rest : List SExpr}
    (agree : source.parameters.AgreeOn others (keysIn (item :: rest))) :
    source.parameters.AgreeOn others item.keys ∧ source.parameters.AgreeOn others (keysIn rest) :=
  List.forall_mem_append.mp agree

/-! Texts and arguments. -/

theorem parameterValue_congr {headSpan : Span} (items : List SExpr)
    (agree : source.parameters.AgreeOn others
      (SExpr.list (.atom "param" headSpan :: items) span).keys) :
    source.parameterValue items span = (source.under others).parameterValue items span := by
  match items, agree with
  | [.str key keySpan], agree =>
      have same : source.parameters.get? key = others.get? key :=
        agree key (List.mem_singleton_self key)
      simp only [parameterValue, under, same]
      rfl
  | [], _ | [.atom _ _], _ | [.regex _ _], _ | [.list _ _], _ => rfl
  | first :: _ :: _, _ => cases first <;> rfl

mutual

theorem textValue_congr : (expr : SExpr) → source.parameters.AgreeOn others expr.keys →
    source.textValue filter expr = (source.under others).textValue filter expr
  | .list (.atom head headSpan :: parts) span, agree => by
      rw [textValue, textValue]
      by_cases isParam : head = "param"
      · subst isParam
        rw [if_pos rfl, if_pos rfl]
        exact parameterValue_congr parts agree
      by_cases joins : head = "string-append"
      · subst joins
        have apart : "string-append" ≠ "param" ∧ "string-append" ≠ "debug" := by decide
        rw [keys_form apart.1 apart.2] at agree
        simp only [textValues_congr parts agree]
        rfl
      · simp only [isParam, joins, if_false]
        rfl
  | .list [] _, _ | .list (.str _ _ :: _) _, _ | .list (.regex _ _ :: _) _, _
  | .list (.list _ _ :: _) _, _ | .atom _ _, _ | .str _ _, _ | .regex _ _, _ => rfl

theorem textValues_congr : (exprs : List SExpr) → source.parameters.AgreeOn others (keysIn exprs) →
    source.textValues filter exprs = (source.under others).textValues filter exprs
  | [], _ => rfl
  | expr :: rest, agree => by
      obtain ⟨here, later⟩ := agreeOn_cons agree
      rw [textValues, textValues, textValue_congr expr here, textValues_congr rest later]

end

theorem regexArgument_congr (expr : SExpr) (agree : source.parameters.AgreeOn others expr.keys) :
    source.regexArgument filter expr = (source.under others).regexArgument filter expr := by
  have same := @textValue_congr source others filter expr agree
  cases expr with
  | regex => rfl
  | atom | str | list => simp only [regexArgument, same]

theorem addressArgument_congr (span : Span) (items : List SExpr)
    (agree : source.parameters.AgreeOn others (keysIn items)) :
    source.addressArgument filter span items =
      (source.under others).addressArgument filter span items := by
  match items, agree with
  | [.atom protocol protocolSpan, address], agree =>
      have here := (agreeOn_cons (agreeOn_cons agree).2).1
      simp only [addressArgument, textValue_congr address here]
      rfl
  | [], _ | [.str _ _, _], _ | [.regex _ _, _], _ | [.list _ _, _], _ => rfl
  | [first], _ | first :: _ :: _ :: _, _ => cases first <;> rfl

theorem mapM_congr {α : Type} {step step' : SExpr → Except PolicyError α}
    (same : ∀ item, source.parameters.AgreeOn others item.keys → step item = step' item)
    (items : List SExpr) (agree : source.parameters.AgreeOn others (keysIn items)) :
    items.mapM step = items.mapM step' := by
  induction items with
  | nil => rfl
  | cons item rest ih =>
      obtain ⟨here, later⟩ := agreeOn_cons agree
      rw [List.mapM_cons, List.mapM_cons, same item here, ih later]

theorem arguments_congr (kind : ArgumentKind) (span : Span) (items : List SExpr)
    (agree : source.parameters.AgreeOn others (keysIn items)) :
    source.arguments filter kind span items =
      (source.under others).arguments filter kind span items := by
  cases kind with
  | address => simp only [arguments, addressArgument_congr span items agree]
  | keyword values => rfl
  | regex => exact mapM_congr regexArgument_congr items agree
  | path | name | entitlement =>
      refine mapM_congr (fun item here => ?_) items agree
      rw [textValue_congr item here]

theorem leaf_congr (name : String) (nameSpan span : Span) (items : List SExpr)
    (agree : source.parameters.AgreeOn others (keysIn items)) :
    source.leaf name nameSpan span items = (source.under others).leaf name nameSpan span items := by
  rw [leaf, leaf]
  cases Catalogue.byName? name with
  | none => rfl
  | some known =>
      simp only [arguments_congr known.kind span items agree]
      rfl

/-! Filters. -/

theorem leaf_of_unknown {name : String} (unknown : Catalogue.byName? name = none)
    (nameSpan span : Span) (items : List SExpr) :
    source.leaf name nameSpan span items = (source.under others).leaf name nameSpan span items := by
  simp only [leaf, unknown]
  rfl

mutual

theorem filter_congr : (expr : SExpr) → source.parameters.AgreeOn others expr.keys →
    source.filter expr = (source.under others).filter expr
  | .list (.atom head headSpan :: items) span, agree => by
      rw [filter_list, filter_list]
      by_cases isParam : head = "param"
      · subst isParam
        have reserved : "param" ∈ reservedHeads := by decide
        exact leaf_of_unknown (byName?_reserved reserved) headSpan span items
      by_cases isDebug : head = "debug"
      · subst isDebug
        have reserved : "debug" ∈ reservedHeads := by decide
        exact leaf_of_unknown (byName?_reserved reserved) headSpan span items
      rw [keys_form isParam isDebug] at agree
      rw [filters_congr items agree, leaf_congr head headSpan span items agree]
      match items, agree with
      | [item], agree =>
          have same := filter_congr item (agreeOn_cons agree).1
          simp only [same]
          rfl
      | [], _ | _ :: _ :: _, _ => rfl
  | .atom _ _, _ | .str _ _, _ | .regex _ _, _ | .list [] _, _ | .list (.str _ _ :: _) _, _
  | .list (.regex _ _ :: _) _, _ | .list (.list _ _ :: _) _, _ => rfl

theorem filters_congr : (items : List SExpr) → source.parameters.AgreeOn others (keysIn items) →
    source.filters items = (source.under others).filters items
  | [], _ => rfl
  | item :: rest, agree => by
      obtain ⟨here, later⟩ := agreeOn_cons agree
      rw [filters, filters, filter_congr item here, filters_congr rest later]

end

/-! Rules and other forms. -/

theorem modifiersFrom_congr (items : List SExpr) :
    source.modifiersFrom items = (source.under others).modifiersFrom items := by
  induction items with
  | nil => rfl
  | cons item rest ih =>
      rw [modifiersFrom, modifiersFrom, ih]
      rfl

theorem addItem_congr (parts : RuleParts) (item : SExpr)
    (agree : source.parameters.AgreeOn others item.keys) :
    source.addItem parts item = (source.under others).addItem parts item := by
  cases item with
  | atom | str | regex => rfl
  | list items span =>
      rw [addItem, addItem, filter_congr _ agree, @modifiersFrom_congr source others]
      rfl

theorem foldlM_congr {α : Type} {step step' : α → SExpr → Except PolicyError α}
    (same : ∀ state item, source.parameters.AgreeOn others item.keys →
      step state item = step' state item)
    (state : α) (items : List SExpr) (agree : source.parameters.AgreeOn others (keysIn items)) :
    items.foldlM step state = items.foldlM step' state := by
  induction items generalizing state with
  | nil => rfl
  | cons item rest ih =>
      obtain ⟨here, later⟩ := agreeOn_cons agree
      rw [List.foldlM_cons, List.foldlM_cons, same state item here]
      exact congrArg _ (funext fun next => ih next later)

theorem rule_congr (action : Action) (items : List SExpr) (span : Span)
    (agree : source.parameters.AgreeOn others (keysIn items)) :
    source.rule action items span = (source.under others).rule action items span := by
  rw [rule, rule, foldlM_congr addItem_congr _ items agree]
  rfl

theorem addForm_congr (parts : PolicyParts) (form : SExpr)
    (agree : source.parameters.AgreeOn others form.keys) :
    source.addForm parts form = (source.under others).addForm parts form := by
  match form, agree with
  | .list (.atom head headSpan :: items) span, agree =>
      rw [addForm, addForm]
      split
      next => rfl
      next =>
        cases named : Action.ofName? head with
        | none => rfl
        | some action =>
            have noParameter : head ≠ "param" := by
              rintro rfl
              cases named
            have noDebug : head ≠ "debug" := by
              rintro rfl
              cases named
            rw [keys_form noParameter noDebug] at agree
            simp only [rule_congr action items span agree]
  | .list [] _, _ | .list (.str _ _ :: _) _, _ | .list (.regex _ _ :: _) _, _
  | .list (.list _ _ :: _) _, _ | .atom _ _, _ | .str _ _, _ | .regex _ _, _ => rfl

theorem policy_congr (forms : List SExpr)
    (agree : source.parameters.AgreeOn others (keysIn forms)) :
    source.policy forms = (source.under others).policy forms := by
  rw [policy, policy, foldlM_congr addForm_congr _ forms agree]

end PolicySource

end SandboxPolicy
