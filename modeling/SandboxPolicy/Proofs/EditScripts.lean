import Mathlib.Order.Bounds.Basic
import SandboxPolicy.Text.EditDistance

/-!
Edit distances are lengths of shortest edit scripts. Edits at any places and in any order can be
arranged along the two texts, and the cells of the table are the least costs of such arrangements.
-/

namespace SandboxPolicy

variable {α : Type}

inductive Edit : List α → List α → Prop
  | insert (front back : List α) (c : α) : Edit (front ++ back) (front ++ c :: back)
  | delete (front back : List α) (c : α) : Edit (front ++ c :: back) (front ++ back)
  | replace (front back : List α) (c d : α) : Edit (front ++ c :: back) (front ++ d :: back)

inductive Edits : Nat → List α → List α → Prop
  | none (text : List α) : Edits 0 text text
  | step {count : Nat} {first second third : List α} (before : Edits count first second)
      (last : Edit second third) : Edits (count + 1) first third

/-- The texts can be written above each other, with gaps, so that no more than `cost` columns hold
anything but the same character twice. -/
inductive Aligned : Nat → List α → List α → Prop
  | nil (cost : Nat) : Aligned cost [] []
  | keep {cost : Nat} {source target : List α} (c : α) (rest : Aligned cost source target) :
      Aligned cost (c :: source) (c :: target)
  | replace {cost : Nat} {source target : List α} (c d : α) (rest : Aligned cost source target) :
      Aligned (cost + 1) (c :: source) (d :: target)
  | delete {cost : Nat} {source target : List α} (c : α) (rest : Aligned cost source target) :
      Aligned (cost + 1) (c :: source) target
  | insert {cost : Nat} {source target : List α} (d : α) (rest : Aligned cost source target) :
      Aligned (cost + 1) source (d :: target)

variable {source target front back first second third : List α} {c d : α} {cost count more : Nat}

/-! Scripts of edits. -/

theorem Edit.cons (edit : Edit source target) (c : α) : Edit (c :: source) (c :: target) := by
  cases edit with
  | insert front back d => exact .insert (c :: front) back d
  | delete front back d => exact .delete (c :: front) back d
  | replace front back d e => exact .replace (c :: front) back d e

theorem Edit.exists_middle (edit : Edit source target) : ∃ front back old new,
    source = front ++ (old ++ back) ∧ target = front ++ (new ++ back) ∧ old.length ≤ 1 ∧
      new.length ≤ 1 := by
  cases edit with
  | insert front back c => exact ⟨front, back, [], [c], rfl, rfl, Nat.zero_le 1, Nat.le_refl 1⟩
  | delete front back c => exact ⟨front, back, [c], [], rfl, rfl, Nat.le_refl 1, Nat.zero_le 1⟩
  | replace front back c d => exact ⟨front, back, [c], [d], rfl, rfl, Nat.le_refl 1, Nat.le_refl 1⟩

theorem Edit.symm (edit : Edit source target) : Edit target source := by
  cases edit with
  | insert front back c => exact .delete front back c
  | delete front back c => exact .insert front back c
  | replace front back c d => exact .replace front back d c

namespace Edits

theorem cons (edits : Edits count source target) (c : α) :
    Edits count (c :: source) (c :: target) := by
  induction edits with
  | none text => exact .none (c :: text)
  | step _ last ih => exact ih.step (last.cons c)

theorem trans (before : Edits count first second) (after : Edits more second third) :
    Edits (count + more) first third := by
  induction after with
  | none => exact before
  | step _ last ih => exact (ih before).step last

theorem symm (edits : Edits count source target) : Edits count target source := by
  induction edits with
  | none text => exact .none text
  | @step count _ _ _ _ last ih =>
      have first : Edits 1 _ _ := (Edits.none _).step last.symm
      rw [Nat.add_comm]
      exact first.trans ih

theorem zero_iff : Edits 0 source target ↔ source = target := by
  constructor
  · rintro ⟨⟩
    rfl
  · rintro rfl
    exact .none source

end Edits

/-! Alignments, which are as good as scripts. -/

namespace Aligned

theorem slack (aligned : Aligned cost source target) (extra : Nat) :
    Aligned (extra + cost) source target := by
  induction aligned with
  | nil cost => exact .nil (extra + cost)
  | keep c _ ih => exact .keep c ih
  | replace c d _ ih => exact .replace c d ih
  | delete c _ ih => exact .delete c ih
  | insert d _ ih => exact .insert d ih

theorem refl (text : List α) : Aligned 0 text text := by
  induction text with
  | nil => exact .nil 0
  | cons c _ ih => exact .keep c ih

theorem append (begins : Aligned cost first second) (ends : Aligned more source target) :
    Aligned (cost + more) (first ++ source) (second ++ target) := by
  induction begins with
  | nil cost => exact ends.slack cost
  | keep c _ ih => exact .keep c ih
  | replace c d _ ih => exact Nat.add_right_comm _ 1 more ▸ .replace c d ih
  | delete c _ ih => exact Nat.add_right_comm _ 1 more ▸ .delete c ih
  | insert d _ ih => exact Nat.add_right_comm _ 1 more ▸ .insert d ih

theorem of_length_le (short : source.length ≤ cost) (short' : target.length ≤ cost) :
    Aligned cost source target := by
  induction cost generalizing source target with
  | zero =>
      obtain rfl := List.length_eq_zero_iff.mp (Nat.le_zero.mp short)
      obtain rfl := List.length_eq_zero_iff.mp (Nat.le_zero.mp short')
      exact .nil 0
  | succ cost ih =>
      rcases source with _ | ⟨c, source⟩ <;> rcases target with _ | ⟨d, target⟩
      · exact .nil _
      · exact .insert d (ih (Nat.zero_le cost) (Nat.le_of_succ_le_succ short'))
      · exact .delete c (ih (Nat.le_of_succ_le_succ short) (Nat.zero_le cost))
      · exact .replace c d (ih (Nat.le_of_succ_le_succ short) (Nat.le_of_succ_le_succ short'))

theorem length_le (aligned : Aligned cost source target) :
    source.length ≤ target.length + cost ∧ target.length ≤ source.length + cost := by
  induction aligned with
  | nil => simp
  | keep _ _ ih | replace _ _ _ ih | delete _ _ ih | insert _ _ ih =>
      simp only [List.length_cons]
      omega

theorem exists_head (aligned : Aligned cost source (d :: target)) :
    ∃ begins ends cost₁ cost₂, source = begins ++ ends ∧ cost₁ + cost₂ = cost ∧
      Aligned cost₁ begins [d] ∧ Aligned cost₂ ends target := by
  generalize whole : d :: target = text at aligned
  induction aligned with
  | nil => cases whole
  | @keep cost source _ c rest =>
      obtain ⟨rfl, rfl⟩ := List.cons_eq_cons.mp whole
      exact ⟨[d], source, 0, cost, rfl, Nat.zero_add cost, .keep d (.nil 0), rest⟩
  | @replace cost source _ c _ rest =>
      obtain ⟨rfl, rfl⟩ := List.cons_eq_cons.mp whole
      exact ⟨[c], source, 1, cost, rfl, Nat.add_comm 1 cost, .replace c d (.nil 0), rest⟩
  | delete c _ ih =>
      obtain ⟨begins, ends, cost₁, cost₂, rfl, rfl, left, right⟩ := ih whole
      exact ⟨c :: begins, ends, cost₁ + 1, cost₂, rfl, Nat.add_right_comm _ 1 _, .delete c left,
        right⟩
  | @insert cost source _ _ rest =>
      obtain ⟨rfl, rfl⟩ := List.cons_eq_cons.mp whole
      exact ⟨[], source, 1, cost, rfl, Nat.add_comm 1 cost, .insert d (.nil 0), rest⟩

theorem exists_split (aligned : Aligned cost source (front ++ back)) :
    ∃ begins ends cost₁ cost₂, source = begins ++ ends ∧ cost₁ + cost₂ = cost ∧
      Aligned cost₁ begins front ∧ Aligned cost₂ ends back := by
  induction front generalizing cost source with
  | nil => exact ⟨[], source, 0, cost, rfl, Nat.zero_add cost, .nil 0, aligned⟩
  | cons d front ih =>
      obtain ⟨head, rest, cost₁, cost₂, rfl, rfl, first, aligned⟩ := exists_head aligned
      obtain ⟨begins, ends, cost₂, cost₃, rfl, rfl, left, right⟩ := ih aligned
      exact ⟨head ++ begins, ends, cost₁ + cost₂, cost₃, by simp, Nat.add_assoc _ _ _,
        first.append left, right⟩

/-- An edit costs one column more, wherever it is made: what the old character was aligned with can
be aligned with the new one. -/
theorem edit (aligned : Aligned cost first second) (edit : Edit second third) :
    Aligned (cost + 1) first third := by
  obtain ⟨front, back, old, new, rfl, rfl, single, single'⟩ := edit.exists_middle
  obtain ⟨begins, rest, cost₁, _, rfl, rfl, left, aligned⟩ := aligned.exists_split
  obtain ⟨middle, ends, cost₂, cost₃, rfl, rfl, changed, right⟩ := aligned.exists_split
  have short : middle.length ≤ cost₂ + 1 := changed.length_le.1.trans (by omega)
  have new_middle : Aligned (cost₂ + 1) middle new := of_length_le short (by omega)
  have total : cost₁ + (cost₂ + 1 + cost₃) = cost₁ + (cost₂ + cost₃) + 1 := by omega
  exact total ▸ left.append (new_middle.append right)

theorem ofEdits (edits : Edits count source target) : Aligned count source target := by
  induction edits with
  | none text => exact refl text
  | step _ last ih => exact ih.edit last

theorem exists_edits (aligned : Aligned cost source target) :
    ∃ count ≤ cost, Edits count source target := by
  induction aligned with
  | nil cost => exact ⟨0, Nat.zero_le cost, .none []⟩
  | keep c _ ih =>
      obtain ⟨count, within, edits⟩ := ih
      exact ⟨count, within, edits.cons c⟩
  | @replace _ _ target c d _ ih =>
      obtain ⟨count, within, edits⟩ := ih
      exact ⟨count + 1, Nat.succ_le_succ within, (edits.cons c).step (.replace [] target c d)⟩
  | @delete _ _ target c _ ih =>
      obtain ⟨count, within, edits⟩ := ih
      exact ⟨count + 1, Nat.succ_le_succ within, (edits.cons c).step (.delete [] target c)⟩
  | @insert _ _ target d _ ih =>
      obtain ⟨count, within, edits⟩ := ih
      exact ⟨count + 1, Nat.succ_le_succ within, edits.step (.insert [] target d)⟩

theorem reverse (aligned : Aligned cost source target) :
    Aligned cost source.reverse target.reverse := by
  induction aligned with
  | nil cost => exact .nil cost
  | keep c _ ih =>
      rw [List.reverse_cons, List.reverse_cons]
      exact ih.append (.keep c (.nil 0))
  | replace c d _ ih =>
      rw [List.reverse_cons, List.reverse_cons]
      exact ih.append (.replace c d (.nil 0))
  | delete c _ ih =>
      have turned := ih.append (.delete c (.nil 0))
      rwa [List.append_nil, ← List.reverse_cons] at turned
  | insert d _ ih =>
      have turned := ih.append (.insert d (.nil 0))
      rwa [List.append_nil, ← List.reverse_cons] at turned

theorem of_concat (aligned : Aligned cost (source ++ [c]) (target ++ [d])) :
    (c = d ∧ Aligned cost source target) ∨ ∃ less, cost = less + 1 ∧
      (Aligned less source target ∨ Aligned less source (target ++ [d]) ∨
        Aligned less (source ++ [c]) target) := by
  have turned := aligned.reverse
  rw [List.reverse_concat, List.reverse_concat] at turned
  cases turned with
  | keep _ rest => exact .inl ⟨rfl, by simpa using rest.reverse⟩
  | @replace less _ _ _ _ rest => exact .inr ⟨less, rfl, .inl (by simpa using rest.reverse)⟩
  | @delete less _ _ _ rest => exact .inr ⟨less, rfl, .inr (.inl (by simpa using rest.reverse))⟩
  | @insert less _ _ _ rest => exact .inr ⟨less, rfl, .inr (.inr (by simpa using rest.reverse))⟩

end Aligned

/-! The rows of the table. -/

def LeastCost (source target : List α) (cost : Nat) : Prop :=
  IsLeast {cost | Aligned cost source target} cost

namespace LeastCost

theorem iff_edits : LeastCost source target cost ↔
    IsLeast {count | Edits count source target} cost := by
  constructor
  · rintro ⟨aligned, least⟩
    obtain ⟨count, within, edits⟩ := aligned.exists_edits
    obtain rfl := Nat.le_antisymm within (least (Aligned.ofEdits edits))
    exact ⟨edits, fun other script => least (Aligned.ofEdits script)⟩
  · rintro ⟨edits, least⟩
    refine ⟨Aligned.ofEdits edits, fun other aligned => ?_⟩
    obtain ⟨count, within, script⟩ := Aligned.exists_edits aligned
    exact (least script).trans within

theorem nil_right (source : List α) : LeastCost source [] source.length := by
  refine ⟨Aligned.of_length_le (Nat.le_refl _) (Nat.zero_le _), fun cost aligned => ?_⟩
  simpa using (Aligned.length_le aligned).1

theorem nil_left (target : List α) : LeastCost [] target target.length := by
  refine ⟨Aligned.of_length_le (Nat.zero_le _) (Nat.le_refl _), fun cost aligned => ?_⟩
  simpa using (Aligned.length_le aligned).2

variable [DecidableEq α]

theorem concat {corner up left : Nat} (diagonal : LeastCost source target corner)
    (above : LeastCost source (target ++ [d]) up)
    (before : LeastCost (source ++ [c]) target left) :
    LeastCost (source ++ [c]) (target ++ [d])
      (min (min (corner + if c = d then 0 else 1) (up + 1)) (left + 1)) := by
  constructor
  · refine min_rec' _ (min_rec' _ ?_ ?_) ?_
    · refine diagonal.1.append ?_
      split
      next same => exact same ▸ .keep c (.nil 0)
      next => exact .replace c d (.nil 0)
    · have column : Aligned 1 [c] [] := .delete c (.nil 0)
      have extended := above.1.append column
      rwa [List.append_nil] at extended
    · have column : Aligned 1 [] [d] := .insert d (.nil 0)
      have extended := before.1.append column
      rwa [List.append_nil] at extended
  · intro cost aligned
    rcases Aligned.of_concat aligned with ⟨same, rest⟩ | ⟨less, rfl, rest | rest | rest⟩
    · have bound := diagonal.2 rest
      rw [if_pos same]
      omega
    · have bound := diagonal.2 rest
      split <;> omega
    · have bound := above.2 rest
      omega
    · have bound := before.2 rest
      omega

end LeastCost

/-- The cells are the costs of the source against `front` with ever more of `rest` behind it. -/
inductive Cells (source : List α) : (front rest : List α) → List Nat → Prop
  | nil (front : List α) : Cells source front [] []
  | cons {front rest : List α} {d : α} {cell : Nat} {cells : List Nat}
      (first : LeastCost source (front ++ [d]) cell)
      (others : Cells source (front ++ [d]) rest cells) :
      Cells source front (d :: rest) (cell :: cells)

inductive IsRow (source target : List α) : List Nat → Prop
  | mk {first : Nat} {cells : List Nat} (begins : LeastCost source [] first)
      (others : Cells source [] target cells) : IsRow source target (first :: cells)

namespace Cells

variable {rest : List α} {cells : List Nat}

theorem range (front rest : List α) :
    Cells [] front rest (List.range' (front.length + 1) rest.length) := by
  induction rest generalizing front with
  | nil => exact .nil front
  | cons d rest ih =>
      have least := LeastCost.nil_left (front ++ [d])
      have others := ih (front ++ [d])
      rw [List.length_append, List.length_singleton] at least others
      exact .cons least others

theorem next [DecidableEq α] {corner left : Nat} (above : Cells source front rest cells)
    (diagonal : LeastCost source front corner) (before : LeastCost (source ++ [c]) front left) :
    Cells (source ++ [c]) front rest (nextCells c rest corner cells left) := by
  induction above generalizing corner left with
  | nil front => exact .nil front
  | cons first _ ih =>
      have cell := diagonal.concat first before
      exact .cons cell (ih first cell)

theorem last {cell : Nat} (measured : Cells source front rest cells)
    (first : LeastCost source front cell) :
    LeastCost source (front ++ rest) (cells.getLastD cell) := by
  induction measured generalizing cell with
  | nil front => rwa [List.append_nil]
  | @cons front rest d cell' cells found _ ih =>
      have behind := ih found
      rwa [List.append_assoc, List.singleton_append, ← List.getLastD_cons] at behind

end Cells

namespace IsRow

variable {row : List Nat}

theorem start (target : List α) : IsRow [] target (List.range (target.length + 1)) := by
  rw [List.range_eq_range', List.range'_succ]
  exact .mk (LeastCost.nil_left []) (Cells.range [] target)

theorem last (measured : IsRow source target row) : LeastCost source target (row.getLastD 0) := by
  obtain ⟨begins, others⟩ := measured
  rw [List.getLastD_cons]
  exact others.last begins

variable [DecidableEq α]

theorem next (measured : IsRow source target row) (c : α) :
    IsRow (source ++ [c]) target (nextRow c target row) := by
  obtain @⟨first, cells, begins, others⟩ := measured
  have longer : LeastCost (source ++ [c]) [] (first + 1) := by
    have least := LeastCost.nil_right (source ++ [c])
    rwa [List.length_append, List.length_singleton, (LeastCost.nil_right source).unique begins]
      at least
  exact .mk longer (others.next begins longer)

theorem foldl (measured : IsRow source target row) (rest : List α) :
    IsRow (source ++ rest) target (rest.foldl (fun row c => nextRow c target row) row) := by
  induction rest generalizing source row with
  | nil => rwa [List.append_nil]
  | cons c rest ih =>
      have whole := ih (measured.next c)
      rwa [List.append_assoc, List.singleton_append] at whole

end IsRow

/-! The metric. -/

variable [DecidableEq α]

theorem editDistance_isLeast (source target : List α) :
    IsLeast {count | Edits count source target} (editDistance source target) := by
  have measured := (IsRow.start target).foldl source
  rw [List.nil_append] at measured
  exact LeastCost.iff_edits.mp measured.last

theorem editDistance_comm (source target : List α) :
    editDistance source target = editDistance target source := by
  have forward := editDistance_isLeast source target
  have backward := editDistance_isLeast target source
  exact Nat.le_antisymm (forward.2 (Edits.symm backward.1)) (backward.2 (Edits.symm forward.1))

theorem editDistance_eq_zero_iff : editDistance source target = 0 ↔ source = target := by
  have least := editDistance_isLeast source target
  rw [← Edits.zero_iff]
  constructor
  · intro zero
    exact zero ▸ least.1
  · intro same
    exact Nat.le_zero.mp (least.2 same)

theorem editDistance_triangle (first second third : List α) :
    editDistance first third ≤ editDistance first second + editDistance second third :=
  (editDistance_isLeast first third).2
    (Edits.trans (editDistance_isLeast first second).1 (editDistance_isLeast second third).1)

end SandboxPolicy
