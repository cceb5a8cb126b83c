import Mathlib.Data.List.Induction
import SandboxPolicy.OperationTable
import SandboxPolicy.Proofs.Splitting

/-!
Which operations a rule is about: an operation covers itself and all that its name continues to,
and `default` covers all of them.
-/

namespace SandboxPolicy

namespace OperationTable

theorem beforeStar?_eq_some {name stem : List Char} :
    beforeStar? name = some stem ↔ name = stem ++ ['*'] := by
  rw [beforeStar?]
  constructor
  · intro found
    split at found
    next ends =>
      obtain rfl := Option.some.inj found
      obtain ⟨nonempty, last⟩ := List.getLast?_eq_some_iff.mp ends
      rw [last, List.dropLast_concat]
    next => cases found
  · rintro rfl
    rw [List.getLast?_concat, if_pos rfl, List.dropLast_concat]

theorem nameCovers_iff {ruleName name : List Char} :
    nameCovers ruleName name = true ↔
      ∃ stem rest, ruleName = stem ++ ['*'] ∧ name = stem ++ '-' :: rest := by
  rw [nameCovers]
  constructor
  · intro covered
    split at covered
    next => cases covered
    next stem found =>
      split at covered
      next rest continued =>
        obtain ⟨tail, rfl⟩ := List.head?_eq_some_iff.mp (eq_of_beq covered)
        exact ⟨stem, tail, beforeStar?_eq_some.mp found, afterStart?_eq_some.mp continued⟩
      next => cases covered
  · rintro ⟨stem, rest, starred, continued⟩
    simp [beforeStar?_eq_some.mpr starred, afterStart?_eq_some.mpr continued]

theorem nameCovers_trans {first second third : List Char} (upper : nameCovers first second = true)
    (lower : nameCovers second third = true) : nameCovers first third = true := by
  obtain ⟨stem, rest, starred, rfl⟩ := nameCovers_iff.mp upper
  obtain ⟨stem', rest', starred', rfl⟩ := nameCovers_iff.mp lower
  -- The star at the end of the middle name comes after the hyphen behind the first stem.
  rcases List.eq_nil_or_concat rest with rfl | ⟨middle, last, rfl⟩
  · have ends := (List.append_inj' starred' rfl).2
    cases ends
  · rw [List.concat_eq_append, ← List.cons_append, ← List.append_assoc] at starred'
    have front := (List.append_inj' starred' rfl).1
    exact nameCovers_iff.mpr
      ⟨stem, middle ++ '-' :: rest', starred, by rw [← front]; simp⟩

variable (table : OperationTable)

theorem covers_zero (slot : Nat) : table.covers 0 slot = true := by
  simp [covers]

theorem covers_refl (slot : Nat) : table.covers slot slot = true := by
  simp [covers]

theorem covers_of_ne {ruleSlot slot : Nat} (other : ruleSlot ≠ slot) (positive : ruleSlot ≠ 0) :
    table.covers ruleSlot slot = true ↔ ∃ ruleName name, table.name? ruleSlot = some ruleName ∧
      table.name? slot = some name ∧ nameCovers ruleName.toList name.toList = true := by
  rw [covers, if_neg (by simp [other, positive])]
  cases table.name? ruleSlot <;> cases table.name? slot <;> simp

theorem name?_zero : table.name? 0 = some "default" := by
  rw [name?, ← List.head?_eq_getElem?]
  exact table.first

theorem resolve_default : table.resolve "default" = some 0 := by
  obtain ⟨rest, names⟩ := List.head?_eq_some_iff.mp table.first
  simp [resolve, slot?, names, List.idxOf?_cons]

theorem eq_zero_of_covers_zero {slot : Nat} (covered : table.covers slot 0 = true) : slot = 0 := by
  by_contra positive
  obtain ⟨ruleName, name, _, named, covers⟩ := (table.covers_of_ne positive positive).mp covered
  obtain rfl := Option.some.inj (table.name?_zero.symm.trans named)
  obtain ⟨stem, rest, _, continued⟩ := nameCovers_iff.mp covers
  have hyphen : '-' ∈ "default".toList := by simp [continued]
  exact absurd hyphen (by decide)

theorem covers_trans {first second third : Nat} (upper : table.covers first second = true)
    (lower : table.covers second third = true) : table.covers first third = true := by
  by_cases same : first = second
  · exact same ▸ lower
  by_cases same' : second = third
  · exact same' ▸ upper
  by_cases zero : first = 0
  · exact zero ▸ table.covers_zero third
  by_cases zero' : second = 0
  · subst zero'
    exact absurd (table.eq_zero_of_covers_zero upper) zero
  obtain ⟨ruleName, middle, named, known, covers⟩ := (table.covers_of_ne same zero).mp upper
  obtain ⟨middle', name, known', named', covers'⟩ := (table.covers_of_ne same' zero').mp lower
  obtain rfl := Option.some.inj (known.symm.trans known')
  by_cases last : first = third
  · exact last ▸ table.covers_refl first
  · exact (table.covers_of_ne last zero).mpr
      ⟨ruleName, name, named, named', nameCovers_trans covers covers'⟩

end OperationTable

end SandboxPolicy
