import Mathlib
import SandboxPolicy.Proofs.References

/-!
Texts in the places of references. Where a policy is read from some forms, the same policy is read
from them when each reference is replaced by the text that it denotes, whatever the parameters are.
-/

namespace SandboxPolicy

namespace SExpr

variable {parameters : Bindings} {head : String} {headSpan span : Span} {expr : SExpr}
  {items : List SExpr}

/-- No number sign stands alone among expressions of which some are replaced. In front of a quote it
would begin a regular expression. -/
def Separate (items : List SExpr) : Prop :=
  (∀ item ∈ items, item.refers = false) ∨ ∀ span, SExpr.atom "#" span ∉ items

inductive Apart : SExpr → Prop
  | atom (text : String) (span : Span) : Apart (.atom text span)
  | str (text : String) (span : Span) : Apart (.str text span)
  | regex (text : String) (span : Span) : Apart (.regex text span)
  | reference {expr : SExpr} : expr.refers = true → Apart expr
  | debug {expr : SExpr} : expr.head? = some "debug" → Apart expr
  | list {items : List SExpr} {span : Span} :
      Separate items → (∀ item ∈ items, item.Apart) → Apart (.list items span)

structure Abreast (items : List SExpr) : Prop where
  separate : Separate items
  apart : ∀ item ∈ items, item.Apart

structure Stays (expr : SExpr) : Prop where
  kept : expr.refers = false
  apart : expr.Apart

structure NoAtom (expr : SExpr) : Prop where
  apart : expr.Apart
  other : ∀ name span, expr ≠ .atom name span

theorem Abreast.of_stays (stays : ∀ item ∈ items, item.Stays) : Abreast items :=
  ⟨.inl fun item member => (stays item member).kept, fun item member => (stays item member).apart⟩

theorem Abreast.of_noAtom (noAtom : ∀ item ∈ items, item.NoAtom) : Abreast items :=
  ⟨.inr fun span member => (noAtom _ member).other "#" span rfl,
    fun item member => (noAtom item member).apart⟩

theorem Abreast.cons (abreast : Abreast items) (solid : head ≠ "#") :
    Abreast (.atom head headSpan :: items) := by
  refine ⟨?_, List.forall_mem_cons.mpr ⟨.atom _ _, abreast.apart⟩⟩
  rcases abreast.separate with kept | free
  · exact .inl (List.forall_mem_cons.mpr ⟨rfl, kept⟩)
  · refine .inr fun span member => ?_
    rcases List.mem_cons.mp member with same | later
    · cases same
      exact solid rfl
    · exact free span later

theorem Abreast.tail (abreast : Abreast (expr :: items)) : Abreast items := by
  refine ⟨?_, fun item member => abreast.apart item (List.mem_cons_of_mem _ member)⟩
  rcases abreast.separate with kept | free
  · exact .inl fun item member => kept item (List.mem_cons_of_mem _ member)
  · exact .inr fun span member => free span (List.mem_cons_of_mem _ member)

theorem Apart.abreast (apart : (SExpr.list items span).Apart)
    (kept : ¬(SExpr.list items span).refers = true)
    (noDebug : ¬(SExpr.list items span).head? = some "debug") : Abreast items := by
  cases apart with
  | reference refers => exact absurd refers kept
  | debug head => exact absurd head noDebug
  | list separate apart => exact ⟨separate, apart⟩

theorem refers_debug (headSpan span : Span) (items : List SExpr) :
    refers (.list (.atom "debug" headSpan :: items) span) = false := by
  have noParameter : parameter? (.list (.atom "debug" headSpan :: items) span) = none :=
    parameter?_of_head (by decide)
  rw [refers, noParameter, head?]
  rfl

theorem inlined_debug : inlined parameters (.list (.atom "debug" headSpan :: items) span) =
    .list (.atom "debug" headSpan :: items) span := by
  rw [inlined, refers_debug, head?]
  rfl

def Plain (head : String) : Prop := head ∉ reservedHeads

instance : DecidablePred Plain := fun _ => inferInstanceAs (Decidable (_ ∉ _))

theorem Plain.refers (plain : Plain head) :
    SExpr.refers (.list (.atom head headSpan :: items) span) = false := by
  simp only [Plain, reservedHeads, List.mem_cons, List.not_mem_nil, or_false, not_or] at plain
  obtain ⟨_, noParameter, noJoin, _⟩ := plain
  simp [SExpr.refers, parameter?_of_head noParameter, head?, noJoin]

theorem Plain.inlined (plain : Plain head) :
    SExpr.inlined parameters (.list (.atom head headSpan :: items) span) =
      .list (.atom head headSpan :: inlinedItems parameters items) span := by
  have noDebug : head ≠ "debug" := by
    rintro rfl
    exact plain (by decide)
  have kept := @Plain.refers head headSpan span items plain
  rw [SExpr.inlined, kept, head?, inlinedItems]
  simp only [Bool.false_eq_true, if_false, Option.some.injEq, noDebug]
  rfl

theorem Plain.stays (plain : Plain head) (abreast : Abreast items) :
    Stays (.list (.atom head headSpan :: items) span) where
  kept := plain.refers
  apart := by
    have solid : head ≠ "#" := by
      rintro rfl
      exact plain (by decide)
    obtain ⟨separate, apart⟩ := @Abreast.cons head headSpan items abreast solid
    exact .list separate apart

theorem inlinedItems_of_text (texts : ∀ item ∈ items, item.text?.isSome = true) :
    inlinedItems parameters items = items ∧ ∀ item ∈ items, item.Stays := by
  induction items with
  | nil => exact ⟨rfl, by simp⟩
  | cons item rest ih =>
      obtain ⟨here, later⟩ := List.forall_mem_cons.mp texts
      obtain ⟨same, stays⟩ := ih later
      have alone : item.inlined parameters = item ∧ item.Stays := by
        cases item with
        | atom text span => exact ⟨rfl, rfl, .atom text span⟩
        | str text span => exact ⟨rfl, rfl, .str text span⟩
        | regex text span => exact ⟨rfl, rfl, .regex text span⟩
        | list => cases here
      exact ⟨by rw [inlinedItems, same, alone.1], List.forall_mem_cons.mpr ⟨alone.2, stays⟩⟩

theorem head?_eq_some : expr.head? = some head ↔
    ∃ headSpan items span, expr = .list (.atom head headSpan :: items) span := by
  constructor
  · intro found
    rw [head?.eq_def] at found
    split at found
    next name headSpan items span =>
      cases found
      exact ⟨headSpan, items, span, rfl⟩
    next => cases found
  · rintro ⟨headSpan, items, span, rfl⟩
    rfl

theorem inlined_of_kept (parameters : Bindings) (kept : (SExpr.list items span).refers = false) :
    ∃ inner, (SExpr.list items span).inlined parameters = .list inner span ∧
      (SExpr.list inner span).head? = (SExpr.list items span).head? := by
  rw [inlined, kept]
  simp only [Bool.false_eq_true, if_false]
  split
  next => exact ⟨items, rfl, rfl⟩
  next =>
    refine ⟨_, rfl, ?_⟩
    match items with
    | [] | .atom _ _ :: _ | .str _ _ :: _ | .regex _ _ :: _ => rfl
    | .list parts _ :: _ =>
        rw [inlinedItems, inlined]
        split_ifs <;> rfl

end SExpr

namespace Outcome

open SExpr (inlinedItems)

variable {parameters : Bindings} {Needed : SExpr → Prop} {α : Type} {items : List SExpr}

theorem mapM_inlined {step step' : SExpr → Except PolicyError α} {results : List α}
    (each : ∀ item result, step item = .ok result →
      Needed item ∧ step' (item.inlined parameters) = .ok result)
    (read : items.mapM step = .ok results) :
    (∀ item ∈ items, Needed item) ∧
      (inlinedItems parameters items).mapM step' = .ok results := by
  constructor
  · intro item member
    obtain ⟨result, stepped⟩ := forall_of_mapM read item member
    exact (each item result stepped).1
  · rw [SExpr.inlinedItems_eq_map]
    rw [mapM_eq_ok] at read ⊢
    refine List.forall₂_map_left_iff.mpr (read.imp fun item result stepped => ?_)
    exact (each item result stepped).2

theorem foldlM_inlined {step step' : α → SExpr → Except PolicyError α}
    (each : ∀ state item next, step state item = .ok next →
      Needed item ∧ step' state (item.inlined parameters) = .ok next)
    {state last : α} (added : items.foldlM step state = .ok last) :
    (∀ item ∈ items, Needed item) ∧
      (inlinedItems parameters items).foldlM step' state = .ok last := by
  induction items generalizing state with
  | nil => exact ⟨by simp, added⟩
  | cons item rest ih =>
      rw [List.foldlM_cons, bind_eq_ok] at added
      obtain ⟨next, stepped, later⟩ := added
      obtain ⟨needed, again⟩ := each state item next stepped
      obtain ⟨allNeeded, allAgain⟩ := ih later
      rw [SExpr.inlinedItems, List.foldlM_cons, bind_eq_ok]
      exact ⟨List.forall_mem_cons.mpr ⟨needed, allNeeded⟩, next, again, allAgain⟩

end Outcome

namespace PolicySource

open SExpr Outcome

variable {source other : PolicySource} {filter : String} {span : Span} {items : List SExpr}

/-! Texts and arguments. -/

theorem parameterValue_denoted {headSpan : Span} {parts : List SExpr} {text : String}
    (read : source.parameterValue parts span = .ok text) :
    ∃ key, parameter? (.list (.atom "param" headSpan :: parts) span) = some key ∧
      source.parameters.get? key = some text := by
  rw [parameterValue.eq_def] at read
  split at read
  next key keySpan =>
    split at read
    next value bound =>
      cases read
      exact ⟨key, rfl, bound⟩
    next => cases read
  next => cases read

/-- The expression is read as the text: it is written as such, or refers to it. -/
structure Denotes (parameters : Bindings) (expr : SExpr) (text : String) : Prop where
  denoted : expr.denoted parameters = text
  written : expr.refers = true ∨ ∃ span, expr = .str text span

mutual

theorem textValue_denotes : (expr : SExpr) → (text : String) →
    source.textValue filter expr = .ok text → Denotes source.parameters expr text
  | .str text span, _, read => by
      cases read
      exact ⟨rfl, .inr ⟨span, rfl⟩⟩
  | .list (.atom head headSpan :: parts) span, text, read => by
      rw [textValue] at read
      split at read
      next isParam =>
        subst isParam
        obtain ⟨key, refers, bound⟩ := @parameterValue_denoted source span headSpan parts text read
        refine ⟨?_, .inl (by rw [SExpr.refers, refers]; rfl)⟩
        rw [denoted, refers]
        simp [bound]
      next noParameter =>
        split at read
        next joins =>
          obtain ⟨texts, found, done⟩ := bind_eq_ok.mp read
          cases done
          have inside := textValues_denoted parts texts found
          refine ⟨?_, .inl (by simp [SExpr.refers, head?, joins])⟩
          rw [denoted, parameter?_of_head noParameter]
          exact inside
        next => cases read
  | .list [] _, _, read | .list (.str _ _ :: _) _, _, read | .list (.regex _ _ :: _) _, _, read
  | .list (.list _ _ :: _) _, _, read | .atom _ _, _, read | .regex _ _, _, read => by cases read

theorem textValues_denoted : (parts : List SExpr) → (texts : List String) →
    source.textValues filter parts = .ok texts →
    denotedParts source.parameters parts = String.join texts
  | [], _, read => by
      cases read
      rfl
  | part :: rest, texts, read => by
      rw [textValues] at read
      obtain ⟨text, first, read⟩ := bind_eq_ok.mp read
      obtain ⟨others, later, done⟩ := bind_eq_ok.mp read
      cases done
      have here := (textValue_denotes part text first).denoted
      rw [denotedParts, here, textValues_denoted rest others later]
      simp

end

theorem Denotes.inlined {expr : SExpr} {text : String}
    (denotes : Denotes source.parameters expr text) :
    ∃ span, expr.inlined source.parameters = .str text span := by
  obtain ⟨rfl, refers | ⟨span, isStr⟩⟩ := denotes
  · cases expr with
    | list items span => exact ⟨span, by rw [SExpr.inlined, if_pos refers]⟩
    | atom | str | regex => cases refers
  · rw [isStr]
    exact ⟨span, rfl⟩

theorem Denotes.noAtom {expr : SExpr} {text : String}
    (denotes : Denotes source.parameters expr text) : expr.NoAtom := by
  rcases denotes.written with refers | ⟨span, rfl⟩
  · refine ⟨.reference refers, ?_⟩
    rintro name span rfl
    cases refers
  · exact ⟨.str text span, by simp⟩

theorem textValue_inlined {expr : SExpr} {text : String}
    (read : source.textValue filter expr = .ok text) :
    expr.NoAtom ∧ other.textValue filter (expr.inlined source.parameters) = .ok text := by
  have denotes := textValue_denotes expr text read
  obtain ⟨span, written⟩ := denotes.inlined
  rw [written]
  exact ⟨denotes.noAtom, rfl⟩

theorem textArguments_inlined (build : String → Argument) {arguments : List Argument}
    (read : (items.mapM fun item => do return build (← source.textValue filter item)) =
      .ok arguments) :
    Abreast items ∧ ((inlinedItems source.parameters items).mapM fun item => do
      return build (← other.textValue filter item)) = .ok arguments := by
  let step (reading : PolicySource) (item : SExpr) : Except PolicyError Argument := do
    return build (← reading.textValue filter item)
  have each : ∀ item result, step source item = .ok result →
      item.NoAtom ∧ step other (item.inlined source.parameters) = .ok result := by
    intro item result stepped
    obtain ⟨text, found, done⟩ := bind_eq_ok.mp stepped
    obtain ⟨noAtom, again⟩ := @textValue_inlined source other filter item text found
    exact ⟨noAtom, bind_eq_ok.mpr ⟨text, again, done⟩⟩
  obtain ⟨noAtom, again⟩ := mapM_inlined each read
  exact ⟨.of_noAtom noAtom, again⟩

theorem keywordArgument_inlined {expr : SExpr} {argument : Argument}
    (read : source.keywordArgument filter expr = .ok argument) :
    expr.Stays ∧
      other.keywordArgument filter (expr.inlined source.parameters) = .ok argument := by
  cases expr with
  | atom text span => exact ⟨⟨rfl, .atom text span⟩, read⟩
  | str text span => exact ⟨⟨rfl, .str text span⟩, read⟩
  | regex | list => cases read

theorem regexArgument_inlined {expr : SExpr} {argument : Argument}
    (read : source.regexArgument filter expr = .ok argument) :
    expr.NoAtom ∧
      other.regexArgument filter (expr.inlined source.parameters) = .ok argument := by
  rw [regexArgument.eq_def] at read
  split at read
  next text span => exact ⟨⟨.regex text span, by simp⟩, read⟩
  next =>
    obtain ⟨text, found, done⟩ := bind_eq_ok.mp read
    cases done
    have denotes := textValue_denotes expr text found
    obtain ⟨span, written⟩ := denotes.inlined
    rw [written]
    exact ⟨denotes.noAtom, rfl⟩

theorem addressArgument_inlined {argument : Argument}
    (read : source.addressArgument filter span items = .ok argument) :
    Abreast items ∧
      other.addressArgument filter span (inlinedItems source.parameters items) = .ok argument := by
  rw [addressArgument.eq_def] at read
  split at read
  next protocol protocolSpan address =>
    split at read
    next known =>
      obtain ⟨text, found, done⟩ := bind_eq_ok.mp read
      cases done
      obtain ⟨noAtom, again⟩ := @textValue_inlined source other filter address text found
      have solid : protocol ≠ "#" := by
        rintro rfl
        revert known
        decide
      refine ⟨(Abreast.of_noAtom (List.forall_mem_singleton.mpr noAtom)).cons solid, ?_⟩
      simp only [inlinedItems, SExpr.inlined, addressArgument, if_pos known, again]
      rfl
    next => cases read
  next => cases read

theorem arguments_inlined {kind : ArgumentKind} {arguments : List Argument}
    (read : source.arguments filter kind span items = .ok arguments) :
    Abreast items ∧ other.arguments filter kind span (inlinedItems source.parameters items) =
      .ok arguments := by
  cases kind with
  | address =>
      obtain ⟨argument, found, done⟩ := bind_eq_ok.mp read
      obtain ⟨abreast, again⟩ :=
        @addressArgument_inlined source other filter span items argument found
      exact ⟨abreast, bind_eq_ok.mpr ⟨argument, again, done⟩⟩
  | keyword values =>
      obtain ⟨stays, again⟩ := mapM_inlined (fun item result => keywordArgument_inlined) read
      exact ⟨.of_stays stays, again⟩
  | regex =>
      obtain ⟨noAtom, again⟩ := mapM_inlined (fun item result => regexArgument_inlined) read
      exact ⟨.of_noAtom noAtom, again⟩
  | path | name | entitlement =>
      exact textArguments_inlined _ read

theorem leaf_inlined {name : String} {nameSpan : Span} {guard : Filter}
    (read : source.leaf name nameSpan span items = .ok guard) :
    Plain name ∧ Abreast items ∧
      other.leaf name nameSpan span (inlinedItems source.parameters items) = .ok guard := by
  have plain : Plain name := by
    intro reserved
    simp only [leaf, byName?_reserved reserved] at read
    cases read
  rw [leaf] at read ⊢
  cases found : Catalogue.byName? name with
  | none =>
      rw [found] at read
      cases read
  | some known =>
      rw [found] at read
      dsimp only at read ⊢
      rw [inlinedItems_eq_map, List.isEmpty_map, ← inlinedItems_eq_map]
      split at read
      next => cases read
      next filled =>
        obtain ⟨arguments, found, done⟩ := bind_eq_ok.mp read
        obtain ⟨abreast, again⟩ :=
          @arguments_inlined source other known.name span items known.kind arguments found
        refine ⟨plain, abreast, ?_⟩
        rw [if_neg filled]
        exact bind_eq_ok.mpr ⟨arguments, again, done⟩

/-! Filters. -/

mutual

theorem filter_inlined : (expr : SExpr) → (guard : Filter) → source.filter expr = .ok guard →
    expr.Stays ∧ other.filter (expr.inlined source.parameters) = .ok guard
  | .list (.atom head headSpan :: items) span, guard, read => by
      rw [filter_list] at read
      split at read
      next combines =>
        have plain : Plain head := by
          rcases combines with rfl | rfl <;> decide
        split at read
        next => cases read
        next filled =>
          obtain ⟨guards, found, done⟩ := bind_eq_ok.mp read
          obtain ⟨stays, again⟩ := filters_inlined items guards found
          refine ⟨plain.stays (.of_stays stays), ?_⟩
          rw [plain.inlined, filter_list, if_pos combines, inlinedItems_eq_map, List.isEmpty_map,
            if_neg filled, ← inlinedItems_eq_map]
          exact bind_eq_ok.mpr ⟨guards, again, done⟩
      next notCombines =>
        split at read
        next negates =>
          match items with
          | [item] =>
              obtain ⟨inner, found, done⟩ := bind_eq_ok.mp read
              obtain ⟨stays, again⟩ := filter_inlined item inner found
              have plain : Plain head := by
                subst negates
                decide
              refine ⟨plain.stays (.of_stays (List.forall_mem_singleton.mpr stays)), ?_⟩
              rw [plain.inlined, filter_list, if_neg notCombines, if_pos negates]
              exact bind_eq_ok.mpr ⟨inner, again, done⟩
          | [] | _ :: _ :: _ => cases read
        next notNegates =>
          obtain ⟨plain, abreast, again⟩ :=
            @leaf_inlined source other span items head headSpan guard read
          refine ⟨plain.stays abreast, ?_⟩
          rw [plain.inlined, filter_list, if_neg notCombines, if_neg notNegates]
          exact again
  | .list [] _, _, read | .list (.str _ _ :: _) _, _, read | .list (.regex _ _ :: _) _, _, read
  | .list (.list _ _ :: _) _, _, read | .atom _ _, _, read | .str _ _, _, read
  | .regex _ _, _, read => by cases read

theorem filters_inlined : (items : List SExpr) → (guards : List Filter) →
    source.filters items = .ok guards →
    (∀ item ∈ items, item.Stays) ∧
      other.filters (inlinedItems source.parameters items) = .ok guards
  | [], guards, read => ⟨by simp, read⟩
  | item :: rest, guards, read => by
      rw [filters] at read
      obtain ⟨first, found, read⟩ := bind_eq_ok.mp read
      obtain ⟨others, later, done⟩ := bind_eq_ok.mp read
      obtain ⟨stays, again⟩ := filter_inlined item first found
      obtain ⟨allStay, allAgain⟩ := filters_inlined rest others later
      refine ⟨List.forall_mem_cons.mpr ⟨stays, allStay⟩, ?_⟩
      rw [inlinedItems, filters]
      exact bind_eq_ok.mpr ⟨first, again, bind_eq_ok.mpr ⟨others, allAgain, done⟩⟩

end

/-! Rules and other forms. -/

theorem modifiersFrom_keeps {modifiers : Modifiers}
    (read : source.modifiersFrom items = .ok modifiers) :
    (∀ item ∈ items, item.text?.isSome = true) ∧ other.modifiersFrom items = .ok modifiers := by
  induction items generalizing modifiers with
  | nil => exact ⟨by simp, read⟩
  | cons item rest ih =>
      rw [modifiersFrom] at read
      split at read
      next => cases read
      next modifier named =>
        obtain ⟨others, later, done⟩ := bind_eq_ok.mp read
        obtain ⟨texts, again⟩ := ih later
        obtain ⟨text, isText, _⟩ := Option.bind_eq_some_iff.mp named
        refine ⟨List.forall_mem_cons.mpr ⟨by rw [isText]; rfl, texts⟩, ?_⟩
        rw [modifiersFrom, named]
        exact bind_eq_ok.mpr ⟨others, again, done⟩

theorem addItem_inlined {parts next : RuleParts} {item : SExpr}
    (added : source.addItem parts item = .ok next) :
    item.Stays ∧ other.addItem parts (item.inlined source.parameters) = .ok next := by
  rw [addItem.eq_def] at added
  split at added
  next name span =>
    refine ⟨⟨rfl, .atom name span⟩, ?_⟩
    split at added
    next empty =>
      rw [SExpr.inlined, addItem, if_pos empty]
      · exact added
      · simp
    next => cases added
  next items span =>
    split at added
    next withHead =>
      split at added
      next => cases added
      next long =>
        obtain ⟨modifiers, found, done⟩ := bind_eq_ok.mp added
        obtain ⟨headSpan, rest, _, same⟩ := head?_eq_some.mp withHead
        cases same
        obtain ⟨texts, again⟩ := @modifiersFrom_keeps source other rest modifiers found
        obtain ⟨same, stays⟩ := @inlinedItems_of_text source.parameters rest texts
        have plain : Plain "with" := by decide
        refine ⟨plain.stays (.of_stays stays), ?_⟩
        rw [plain.inlined, same, addItem, if_pos withHead, if_neg long]
        exact bind_eq_ok.mpr ⟨modifiers, again, done⟩
    next noWith =>
      obtain ⟨guard, found, done⟩ := bind_eq_ok.mp added
      obtain ⟨stays, again⟩ := @filter_inlined source other _ guard found
      obtain ⟨inner, list, sameHead⟩ := inlined_of_kept source.parameters stays.kept
      rw [list] at again ⊢
      refine ⟨stays, ?_⟩
      rw [addItem, sameHead, if_neg noWith]
      exact bind_eq_ok.mpr ⟨guard, again, done⟩
  next => cases added
  next => cases added

theorem rule_inlined {action : Action} {rule : Rule}
    (read : source.rule action items span = .ok rule) :
    (∀ item ∈ items, item.Stays) ∧
      other.rule action (inlinedItems source.parameters items) span = .ok rule := by
  obtain ⟨parts, added, done⟩ := bind_eq_ok.mp read
  obtain ⟨stays, again⟩ := foldlM_inlined (fun state item next => addItem_inlined) added
  refine ⟨stays, bind_eq_ok.mpr ⟨parts, again, ?_⟩⟩
  split at done
  next => cases done
  next named =>
    rw [if_neg named]
    exact done

theorem version_keeps {number : UInt32} (read : source.version span items = .ok number) :
    (∀ item ∈ items, item.text?.isSome = true) ∧ other.version span items = .ok number := by
  rw [version.eq_def] at read
  split at read
  next text textSpan =>
    split at read
    next value isNumber =>
      refine ⟨by simp [SExpr.text?], ?_⟩
      rw [version, isNumber]
      exact read
    next => cases read
  next => cases read

theorem addForm_inlined {parts next : PolicyParts} {form : SExpr}
    (added : source.addForm parts form = .ok next) :
    form.Stays ∧ other.addForm parts (form.inlined source.parameters) = .ok next := by
  rw [addForm.eq_def] at added
  split at added
  next head headSpan items span =>
    split at added
    next isVersion =>
      split at added
      next => cases added
      next once =>
        obtain ⟨number, found, done⟩ := bind_eq_ok.mp added
        obtain ⟨texts, again⟩ := @version_keeps source other span items number found
        obtain ⟨same, stays⟩ := @inlinedItems_of_text source.parameters items texts
        have plain : Plain head := by
          subst isVersion
          decide
        refine ⟨plain.stays (.of_stays stays), ?_⟩
        rw [plain.inlined, same, addForm, if_pos isVersion, if_neg once]
        exact bind_eq_ok.mpr ⟨number, again, done⟩
    next noVersion =>
      split at added
      next action named =>
        obtain ⟨rule, read, done⟩ := bind_eq_ok.mp added
        obtain ⟨stays, again⟩ := @rule_inlined source other span items action rule read
        have plain : Plain head := by
          intro reserved
          rw [ofName?_reserved reserved] at named
          cases named
        refine ⟨plain.stays (.of_stays stays), ?_⟩
        rw [plain.inlined, addForm, if_neg noVersion, named]
        exact bind_eq_ok.mpr ⟨rule, again, done⟩
      next unnamed =>
        split at added
        next isDebug =>
          cases added
          subst isDebug
          have kept : (SExpr.list (.atom "debug" headSpan :: items) span).refers = false :=
            refers_debug headSpan span items
          refine ⟨⟨kept, .debug rfl⟩, ?_⟩
          rw [inlined_debug, addForm, if_neg noVersion, unnamed]
          rfl
        next =>
          split at added
          next => cases added
          next => cases added
  next => cases added
  next => cases added

theorem policy_inlined {policy : Policy} (read : source.policy items = .ok policy) :
    (∀ form ∈ items, form.Stays) ∧
      other.policy (inlinedItems source.parameters items) = .ok policy := by
  obtain ⟨parts, added, done⟩ := bind_eq_ok.mp read
  obtain ⟨stays, again⟩ := foldlM_inlined (fun state form next => addForm_inlined) added
  refine ⟨stays, bind_eq_ok.mpr ⟨parts, again, ?_⟩⟩
  split at done
  next => exact done
  next => cases done

end PolicySource

end SandboxPolicy
