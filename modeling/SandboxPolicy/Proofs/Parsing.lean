import SandboxPolicy.Policy.Parser
import SandboxPolicy.Proofs.Printing

/-!
What is known of a policy because it was read from a text: each of its rules names an operation,
the operations are atoms, and no group of conditions is empty.
-/

namespace SandboxPolicy

inductive Filter.Full : Filter → Prop
  | leaf (name : String) (argument : Argument) : Full (.leaf name argument)
  | all {items : List Filter} : items ≠ [] → (∀ item ∈ items, item.Full) → Full (.all items)
  | any {items : List Filter} : items ≠ [] → (∀ item ∈ items, item.Full) → Full (.any items)
  | not {item : Filter} : item.Full → Full (.not item)

structure Rule.Written (rule : Rule) : Prop where
  named : rule.operations ≠ []
  atoms : ∀ name ∈ rule.operations, IsAtom name.toList
  full : ∀ guard, rule.filter = some guard → guard.Full

namespace PolicySource

variable {source : PolicySource} {name : String} {span : Span}

theorem arguments_ne_nil {kind : ArgumentKind} {items : List SExpr} {arguments : List Argument}
    (some : items ≠ []) (read : source.arguments name kind span items = .ok arguments) :
    arguments ≠ [] := by
  have each {step : SExpr → Except PolicyError Argument}
      (read : items.mapM step = .ok arguments) : arguments ≠ [] := by
    have lengths := (Outcome.mapM_eq_ok.mp read).length_eq
    rw [← List.length_pos_iff] at some ⊢
    omega
  cases kind with
  | address =>
      obtain ⟨argument, _, done⟩ := Outcome.bind_eq_ok.mp read
      cases done
      simp
  | keyword | regex | path | name | entitlement => exact each read

theorem anyOf_full {filters : List Filter} (some : filters ≠ [])
    (full : ∀ guard ∈ filters, guard.Full) : (anyOf filters).Full := by
  match filters, some, full with
  | [single], _, full => exact full single List.mem_cons_self
  | first :: second :: rest, some, full => exact .any some full

theorem leaf_full {nameSpan : Span} {items : List SExpr} {guard : Filter}
    (read : source.leaf name nameSpan span items = .ok guard) : guard.Full := by
  rw [leaf] at read
  split at read
  next => cases read
  next known _ =>
    split at read
    next => cases read
    next filled =>
      obtain ⟨arguments, found, done⟩ := Outcome.bind_eq_ok.mp read
      cases done
      have some : arguments ≠ [] := arguments_ne_nil (by simpa using filled) found
      refine anyOf_full (by simpa using some) fun guard member => ?_
      obtain ⟨argument, _, rfl⟩ := List.mem_map.mp member
      exact .leaf known.name argument

/-- What a form with an atom in front denotes, however many items are behind it. -/
theorem filter_list (head : String) (headSpan span : Span) (items : List SExpr) :
    source.filter (.list (.atom head headSpan :: items) span) =
      if head = "require-all" ∨ head = "require-any" then
        if items.isEmpty then source.formError span (.noItems head)
        else do
          let filters ← source.filters items
          return if head = "require-all" then .all filters else .any filters
      else if head = "require-not" then
        match items with
        | [item] => do return .not (← source.filter item)
        | _ => source.formError span .notOneItem
      else source.leaf head headSpan span items :=
  filter.eq_def source _

mutual

theorem filter_full : (expr : SExpr) → (guard : Filter) → source.filter expr = .ok guard →
    guard.Full
  | .list (.atom head headSpan :: items) span, guard, read => by
      rw [filter_list] at read
      split at read
      next =>
        split at read
        next => cases read
        next filled =>
          obtain ⟨guards, found, done⟩ := Outcome.bind_eq_ok.mp read
          obtain ⟨lengths, full⟩ := filters_full items guards found
          have some : guards ≠ [] := by
            rintro rfl
            exact filled (by simpa using lengths.symm)
          cases done
          split
          next => exact .all some full
          next => exact .any some full
      next =>
        split at read
        next =>
          match items with
          | [item] =>
              obtain ⟨inner, found, done⟩ := Outcome.bind_eq_ok.mp read
              cases done
              exact .not (filter_full item inner found)
          | [] | _ :: _ :: _ => cases read
        next => exact leaf_full read
  | .list [] span, guard, read => by cases read
  | .list (.str _ _ :: _) _, _, read | .list (.regex _ _ :: _) _, _, read
  | .list (.list _ _ :: _) _, _, read => by cases read
  | .atom _ _, _, read | .str _ _, _, read | .regex _ _, _, read => by cases read

theorem filters_full : (items : List SExpr) → (guards : List Filter) →
    source.filters items = .ok guards →
    guards.length = items.length ∧ ∀ guard ∈ guards, guard.Full
  | [], guards, read => by
      cases read
      simp
  | item :: rest, guards, read => by
      rw [filters] at read
      obtain ⟨first, found, read⟩ := Outcome.bind_eq_ok.mp read
      obtain ⟨others, later, done⟩ := Outcome.bind_eq_ok.mp read
      cases done
      obtain ⟨lengths, full⟩ := filters_full rest others later
      exact ⟨by simp [lengths], List.forall_mem_cons.mpr ⟨filter_full item first found, full⟩⟩

end

structure RuleParts.Written (parts : RuleParts) : Prop where
  atoms : ∀ name ∈ parts.operations, IsAtom name.toList
  full : ∀ guard ∈ parts.filters, guard.Full

theorem addItem_written {item : SExpr} {parts next : RuleParts} (legible : item.Legible)
    (written : parts.Written) (added : source.addItem parts item = .ok next) : next.Written := by
  rw [addItem.eq_def] at added
  split at added
  next name _ =>
    split at added
    next =>
      cases added
      have isAtom : IsAtom name.toList := legible _ (List.mem_singleton_self _)
      exact ⟨List.forall_mem_cons.mpr ⟨isAtom, written.atoms⟩, written.full⟩
    next => cases added
  next items _ =>
    split at added
    next =>
      split at added
      next => cases added
      next =>
        obtain ⟨modifiers, _, done⟩ := Outcome.bind_eq_ok.mp added
        cases done
        exact ⟨written.atoms, written.full⟩
    next =>
      obtain ⟨guard, read, done⟩ := Outcome.bind_eq_ok.mp added
      cases done
      have full : guard.Full := filter_full _ guard read
      exact ⟨written.atoms, List.forall_mem_cons.mpr ⟨full, written.full⟩⟩
  next => cases added
  next => cases added

theorem allOf_full {filters : List Filter} (full : ∀ guard ∈ filters, guard.Full) :
    ∀ guard, allOf filters = some guard → guard.Full := by
  intro guard found
  match filters, found, full with
  | [single], rfl, full => exact full single List.mem_cons_self
  | first :: second :: rest, rfl, full => exact .all (List.cons_ne_nil _ _) full

theorem rule_written {action : Action} {items : List SExpr} {rule : Rule}
    (legible : ∀ item ∈ items, item.Legible) (read : source.rule action items span = .ok rule) :
    rule.Written := by
  rw [PolicySource.rule] at read
  obtain ⟨parts, added, read⟩ := Outcome.bind_eq_ok.mp read
  have written : parts.Written :=
    Outcome.foldlM_keeps (fun item member _ _ => addItem_written (legible item member))
      ⟨by simp, by simp⟩ added
  split at read
  next => cases read
  next named =>
    cases read
    refine ⟨by simpa using named, fun name member => ?_, allOf_full fun guard member => ?_⟩
    · exact written.atoms name (List.mem_reverse.mp member)
    · exact written.full guard (List.mem_reverse.mp member)

theorem addForm_written {form : SExpr} {parts next : PolicyParts} (legible : form.Legible)
    (written : ∀ rule ∈ parts.rules, rule.Written)
    (added : source.addForm parts form = .ok next) : ∀ rule ∈ next.rules, rule.Written := by
  rw [addForm.eq_def] at added
  split at added
  next head headSpan items span =>
    split at added
    next =>
      split at added
      next => cases added
      next =>
        obtain ⟨version, _, done⟩ := Outcome.bind_eq_ok.mp added
        cases done
        exact written
    next =>
      split at added
      next action _ =>
        obtain ⟨rule, read, done⟩ := Outcome.bind_eq_ok.mp added
        cases done
        have inside : ∀ item ∈ items, item.Legible := fun item member =>
          legible.of_mem (List.mem_cons_of_mem _ member)
        exact List.forall_mem_cons.mpr ⟨rule_written inside read, written⟩
      next =>
        split at added
        next =>
          cases added
          exact written
        next =>
          split at added
          next => cases added
          next => cases added
  next => cases added
  next => cases added

end PolicySource

theorem Policy.parse_written {text : String} {parameters : Bindings} {policy : Policy}
    (parsed : Policy.parse text parameters = .ok policy) : ∀ rule ∈ policy.rules, rule.Written := by
  rw [Policy.parse] at parsed
  split at parsed
  next => cases parsed
  next forms read =>
    obtain ⟨parts, added, done⟩ := Outcome.bind_eq_ok.mp parsed
    have keeps : ∀ form ∈ forms, ∀ before after : PolicySource.PolicyParts,
        (∀ rule ∈ before.rules, rule.Written) →
        PolicySource.addForm ⟨text, parameters⟩ before form = .ok after →
        ∀ rule ∈ after.rules, rule.Written := fun form member before after =>
      PolicySource.addForm_written (SExpr.legible_of_parse read member)
    have written : ∀ rule ∈ parts.rules, rule.Written :=
      Outcome.foldlM_keeps keeps (by simp) added
    split at done
    next =>
      cases done
      exact fun rule member => written rule (List.mem_reverse.mp member)
    next => cases done

end SandboxPolicy
