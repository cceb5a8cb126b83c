import Mathlib.Data.List.Nodup
import Mathlib.Tactic.Tauto
import SandboxPolicy.OperationTable

/-!
Duplicates in the text of an operation table. The complaint is about the first line that declares a
name again; the number in it counts the lines that declare a name, so it is that of the line itself
just when no line before it is empty.
-/

namespace SandboxPolicy.OperationTable

/-- What the lines of a text declare; a line that declares nothing leaves an empty name. -/
def declarations (text : String) : List (List Char) := (linesOf text.toList).map cleanLine

def namesBefore (text : String) (index : Nat) : List (List Char) :=
  ((declarations text).take index).filter fun name => !name.isEmpty

/-- The line with the index, counted from zero, declares a name that was declared before, and the
names in front of it are distinct. -/
structure RedeclaredAt (text : String) (index : Nat) (name : String) : Prop where
  declared : (declarations text)[index]? = some name.toList
  named : name ≠ ""
  known : name.toList ∈ namesBefore text index
  distinct : (namesBefore text index).Nodup

theorem firstRepeat_eq_some {seen names : List String} {start number : Nat} {name : String} :
    firstRepeat seen start names = some (number, name) ↔
      ∃ before after, names = before ++ name :: after ∧ number = start + before.length ∧
        before.Nodup ∧ (∀ other ∈ before, other ∉ seen) ∧ (name ∈ before ∨ name ∈ seen) := by
  induction names generalizing seen start with
  | nil => simp [firstRepeat]
  | cons first names ih =>
      rw [firstRepeat]
      split
      next known =>
        constructor
        · intro found
          obtain ⟨rfl, rfl⟩ := Prod.mk.inj (Option.some.inj found)
          exact ⟨[], names, rfl, rfl, List.nodup_nil, by simp, .inr known⟩
        · rintro ⟨before, after, split, rfl, _, fresh, _⟩
          cases before with
          | nil =>
              obtain ⟨rfl, _⟩ := List.cons_eq_cons.mp split
              rfl
          | cons other before =>
              obtain ⟨rfl, _⟩ := List.cons_eq_cons.mp split
              exact absurd known (fresh first List.mem_cons_self)
      next unknown =>
        rw [ih]
        constructor
        · rintro ⟨before, after, rfl, rfl, distinct, fresh, again⟩
          refine ⟨first :: before, after, rfl, ?_, ?_, ?_, ?_⟩
          · rw [List.length_cons, Nat.add_assoc, Nat.add_comm 1]
          · exact List.nodup_cons.mpr
              ⟨fun member => fresh first member List.mem_cons_self, distinct⟩
          · refine List.forall_mem_cons.mpr ⟨unknown, fun other member known => ?_⟩
            exact fresh other member (List.mem_cons_of_mem first known)
          · rw [List.mem_cons] at again ⊢
            tauto
        · rintro ⟨before, after, split, rfl, distinct, fresh, again⟩
          cases before with
          | nil =>
              obtain ⟨rfl, _⟩ := List.cons_eq_cons.mp split
              exact absurd (again.resolve_left List.not_mem_nil) unknown
          | cons other before =>
              obtain ⟨rfl, rfl⟩ := List.cons_eq_cons.mp split
              obtain ⟨new, distinct⟩ := List.nodup_cons.mp distinct
              refine ⟨before, after, rfl, ?_, distinct, fun other member known => ?_, ?_⟩
              · rw [List.length_cons, Nat.add_assoc, Nat.add_comm 1]
              · rcases List.mem_cons.mp known with rfl | known
                · exact new member
                · exact fresh other (List.mem_cons_of_mem first member) known
              · rw [List.mem_cons] at again ⊢
                tauto

theorem firstRepeat_of_nodup {names : List String} (distinct : names.Nodup) (start : Nat) :
    firstRepeat [] start names = none := by
  rw [Option.eq_none_iff_forall_ne_some]
  rintro ⟨number, name⟩ found
  obtain ⟨before, after, rfl, _, _, _, again⟩ := firstRepeat_eq_some.mp found
  exact (List.nodup_append.mp distinct).2.2 name (again.resolve_right List.not_mem_nil) name
    List.mem_cons_self rfl

theorem ofNames_eq_duplicate {names : List String} {number : Nat} {name : String} :
    ofNames names = .error (.duplicate number name) ↔
      firstRepeat [] 1 names = some (number, name) := by
  rw [ofNames]
  split
  next found => simp [found]
  next nothing =>
    refine iff_of_false ?_ (by simp [nothing])
    split
    next => simp
    next =>
      split
      next => split <;> simp
      next => simp

theorem declaredNames_split {text : String} {before after : List String} {name : String}
    (split : declaredNames text = before ++ name :: after) :
    ∃ index, (declarations text)[index]? = some name.toList ∧ name ≠ "" ∧
      before.map String.toList = namesBefore text index := by
  obtain ⟨front, back, whole, rfl, found⟩ := List.map_eq_append_iff.mp split
  obtain ⟨line, rest, rfl, rfl, _⟩ := List.map_eq_cons_iff.mp found
  obtain ⟨first, second, parts, rfl, found⟩ := List.filter_eq_append_iff.mp whole
  obtain ⟨empty, behind, rfl, blank, declares, _⟩ := List.filter_eq_cons_iff.mp found
  have listed : declarations text = (first ++ empty) ++ line :: behind := by
    rw [List.append_assoc]
    exact parts
  have silent : empty.filter (fun name => !name.isEmpty) = [] := List.filter_eq_nil_iff.mpr blank
  refine ⟨(first ++ empty).length, ?_, ?_, ?_⟩
  · rw [listed, List.getElem?_append_right (Nat.le_refl _), Nat.sub_self, String.toList_ofList]
    rfl
  · simpa using declares
  · rw [namesBefore, listed, List.take_left, List.filter_append, silent]
    simp [Function.comp_def]

theorem take_append_cons_drop {lines : List (List Char)} {index : Nat} {line : List Char}
    (found : lines[index]? = some line) :
    lines = lines.take index ++ line :: lines.drop (index + 1) := by
  obtain ⟨bound, rfl⟩ := List.getElem?_eq_some_iff.mp found
  rw [← List.drop_eq_getElem_cons bound, List.take_append_drop]

theorem RedeclaredAt.split {text : String} {index : Nat} {name : String}
    (again : RedeclaredAt text index name) :
    ∃ after, declaredNames text = (namesBefore text index).map String.ofList ++ name :: after := by
  have named : name.toList.isEmpty = false := by simpa using again.named
  refine ⟨(((declarations text).drop (index + 1)).filter fun name => !name.isEmpty).map
    String.ofList, ?_⟩
  change ((declarations text).filter fun name => !name.isEmpty).map String.ofList = _
  conv_lhs => rw [take_append_cons_drop again.declared]
  simp [named, namesBefore]

theorem parse_eq_duplicate_iff {text : String} {number : Nat} {name : String} :
    parse text = .error (.duplicate number name) ↔
      ∃ index, RedeclaredAt text index name ∧ number = (namesBefore text index).length + 1 := by
  rw [parse, ofNames_eq_duplicate, firstRepeat_eq_some]
  constructor
  · rintro ⟨before, after, split, rfl, distinct, _, again⟩
    obtain ⟨index, declared, named, same⟩ := declaredNames_split split
    refine ⟨index, ⟨declared, named, ?_, ?_⟩, ?_⟩
    · rw [← same]
      exact List.mem_map_of_mem (again.resolve_right List.not_mem_nil)
    · rw [← same]
      exact distinct.map fun _ _ => String.toList_inj.mp
    · rw [← same, List.length_map, Nat.add_comm]
  · rintro ⟨index, again, rfl⟩
    obtain ⟨after, split⟩ := again.split
    refine ⟨_, after, split, ?_, ?_, by simp, .inl ?_⟩
    · rw [List.length_map, Nat.add_comm]
    · exact again.distinct.map fun _ _ => String.ofList_inj.mp
    · exact List.mem_map.mpr ⟨_, again.known, String.ofList_toList⟩

variable {text name other : String} {index earlier : Nat}

theorem RedeclaredAt.first (again : RedeclaredAt text index name) (before : earlier < index) :
    ¬RedeclaredAt text earlier other := by
  intro sooner
  have found := sooner.declared
  rw [← List.getElem?_take_of_lt before] at found
  have named : other.toList.isEmpty = false := by simpa using sooner.named
  -- Its name stands a second time among those in front of the later line.
  have distinct := again.distinct
  rw [namesBefore, take_append_cons_drop found, List.take_take,
    Nat.min_eq_left (Nat.le_of_lt before), List.filter_append, List.nodup_append] at distinct
  exact distinct.2.2 _ sooner.known _ (by simp [named]) rfl

theorem namesBefore_length_le (text : String) (index : Nat) :
    (namesBefore text index).length ≤ index :=
  Nat.le_trans (List.length_filter_le _ _) (List.length_take_le _ _)

theorem RedeclaredAt.length_eq_iff (again : RedeclaredAt text index name) :
    (namesBefore text index).length = index ↔
      ∀ line ∈ (linesOf text.toList).take index, cleanLine line ≠ [] := by
  obtain ⟨bound, _⟩ := List.getElem?_eq_some_iff.mp again.declared
  have whole : ((declarations text).take index).length = index :=
    List.length_take_of_le (Nat.le_of_lt bound)
  calc (namesBefore text index).length = index
    _ ↔ (namesBefore text index).length = ((declarations text).take index).length := by rw [whole]
    _ ↔ ∀ name ∈ (declarations text).take index, (!name.isEmpty) = true :=
        List.length_filter_eq_length_iff
    _ ↔ ∀ line ∈ (linesOf text.toList).take index, cleanLine line ≠ [] := by
        simp [declarations, ← List.map_take]

/-- The complaint about a duplicate is about the first line that declares a name again. Its number
is too small by the lines in front that declare nothing, and right just when there are none. -/
theorem parse_duplicate {number : Nat} (refused : parse text = .error (.duplicate number name)) :
    ∃ index, RedeclaredAt text index name ∧
      (∀ earlier < index, ∀ other, ¬RedeclaredAt text earlier other) ∧
      number = (namesBefore text index).length + 1 ∧ number ≤ index + 1 ∧
      (number = index + 1 ↔ ∀ line ∈ (linesOf text.toList).take index, cleanLine line ≠ []) := by
  obtain ⟨index, again, rfl⟩ := parse_eq_duplicate_iff.mp refused
  refine ⟨index, again, fun earlier before other => again.first before, rfl, ?_, ?_⟩
  · exact Nat.succ_le_succ (namesBefore_length_le text index)
  · rw [Nat.succ_inj]
    exact again.length_eq_iff

theorem parse_duplicate_comment :
    parse "\"default\",\r\nsignal ; once\nsignal\n\nsignal" =
      .error (.duplicate 3 "signal") ∧
    ∃ index, RedeclaredAt "\"default\",\r\nsignal ; once\nsignal\n\nsignal" index "signal" ∧
      3 = index + 1 := by
  have refused : parse "\"default\",\r\nsignal ; once\nsignal\n\nsignal" =
      .error (.duplicate 3 "signal") := by cbv
  have third : RedeclaredAt "\"default\",\r\nsignal ; once\nsignal\n\nsignal" 2 "signal" :=
    ⟨by decide, by decide, by decide, by decide⟩
  obtain ⟨index, again, first, _, upTo, _⟩ := parse_duplicate refused
  have notLater : ¬2 < index := fun later => first 2 later "signal" third
  exact ⟨refused, index, again, by omega⟩

/-- Empty lines are not counted, so the number may be that of a line that declares nothing. -/
theorem parse_duplicate_empty_lines :
    ¬∀ (text name : String) (number : Nat), parse text = .error (.duplicate number name) →
      (declarations text)[number - 1]? = some name.toList := by
  intro right
  have refused : parse "default\n\n\nsignal\nsignal" = .error (.duplicate 3 "signal") := by cbv
  have declared := right _ _ _ refused
  have empty : (declarations "default\n\n\nsignal\nsignal")[3 - 1]? = some [] := by cbv
  exact absurd (empty.symm.trans declared) (by decide)

end SandboxPolicy.OperationTable
