import Mathlib.Data.List.DropRight
import SandboxPolicy.Text.Split

/-!
What trimming leaves of a text. Each result is told by the text itself: it is the part between what
was unwanted, and its own ends are wanted.
-/

namespace SandboxPolicy

/-! The ends of joined texts. -/

theorem forall_head?_append {front back : List Char} {p : Char → Prop}
    (first : ∀ c ∈ front.head?, p c) (second : ∀ c ∈ back.head?, p c) :
    ∀ c ∈ (front ++ back).head?, p c := by
  cases front with
  | nil => exact second
  | cons c front => simpa using first

theorem forall_getLast?_append {front back : List Char} {p : Char → Prop}
    (first : ∀ c ∈ front.getLast?, p c) (second : ∀ c ∈ back.getLast?, p c) :
    ∀ c ∈ (front ++ back).getLast?, p c := by
  rcases List.eq_nil_or_concat back with rfl | ⟨back, c, rfl⟩
  · rwa [List.append_nil]
  · rw [List.concat_eq_append] at second ⊢
    rw [← List.append_assoc]
    simpa using second

/-! Trimming. -/

variable {unwanted : Char → Bool} {text kept : List Char}

theorem trimStart_eq_iff : trimStart unwanted text = kept ↔
    ∃ cut, text = cut ++ kept ∧ (∀ c ∈ cut, unwanted c = true) ∧
      ∀ c ∈ kept.head?, unwanted c = false := by
  rw [trimStart]
  constructor
  · rintro rfl
    refine ⟨text.takeWhile unwanted, List.takeWhile_append_dropWhile.symm,
      fun c member => List.mem_takeWhile_imp member, fun c first => ?_⟩
    have wanted := List.head?_dropWhile_not unwanted text
    rw [Option.mem_def.mp first] at wanted
    simpa using wanted
  · rintro ⟨cut, rfl, all, wanted⟩
    rw [List.dropWhile_append_of_pos all]
    cases kept with
    | nil => rfl
    | cons c kept => exact List.dropWhile_cons_of_neg (by simp [wanted c rfl])

theorem trimEnd_eq_iff : trimEnd unwanted text = kept ↔
    ∃ cut, text = kept ++ cut ∧ (∀ c ∈ cut, unwanted c = true) ∧
      ∀ c ∈ kept.getLast?, unwanted c = false := by
  -- An end of a text is the start of the text in reverse.
  have reversed : text.reverse.dropWhile unwanted = kept.reverse ↔ _ := trimStart_eq_iff
  rw [trimEnd, List.reverse_eq_iff, reversed]
  constructor
  · rintro ⟨cut, split, all, wanted⟩
    refine ⟨cut.reverse, ?_, by simpa using all, by simpa using wanted⟩
    rw [← List.reverse_inj, split]
    simp
  · rintro ⟨cut, rfl, all, wanted⟩
    exact ⟨cut.reverse, List.reverse_append, by simpa using all, by simpa using wanted⟩

theorem trimEnd_append {cut : List Char} (all : ∀ c ∈ cut, unwanted c = true) :
    trimEnd unwanted (text ++ cut) = trimEnd unwanted text := by
  obtain ⟨rest, split, all', wanted⟩ := trimEnd_eq_iff.mp (rfl : trimEnd unwanted text = _)
  refine trimEnd_eq_iff.mpr ⟨rest ++ cut, ?_, List.forall_mem_append.mpr ⟨all', all⟩, wanted⟩
  rw [← List.append_assoc, ← split]

theorem trimBoth_eq_iff : trimBoth unwanted text = kept ↔
    ∃ before behind, text = before ++ kept ++ behind ∧
      (∀ c ∈ before, unwanted c = true) ∧ (∀ c ∈ behind, unwanted c = true) ∧
      (∀ c ∈ kept.head?, unwanted c = false) ∧ ∀ c ∈ kept.getLast?, unwanted c = false := by
  rw [trimBoth, trimEnd_eq_iff]
  constructor
  · rintro ⟨behind, split, all, last⟩
    obtain ⟨before, whole, all', first⟩ := trimStart_eq_iff.mp split
    refine ⟨before, behind, by rw [whole, List.append_assoc], all', all, fun c member => ?_, last⟩
    exact first c (by rw [List.head?_append, Option.mem_def.mp member]; rfl)
  · rintro ⟨before, behind, rfl, all', all, first, last⟩
    cases kept with
    | nil =>
        refine ⟨[], ?_, by simp, by simp⟩
        rw [List.append_nil, trimStart_eq_iff]
        exact ⟨before ++ behind, by simp, List.forall_mem_append.mpr ⟨all', all⟩, by simp⟩
    | cons c kept =>
        refine ⟨behind, trimStart_eq_iff.mpr ⟨before, List.append_assoc .., all', ?_⟩, all, last⟩
        simpa using first

theorem trimBoth_append {cut : List Char} (all : ∀ c ∈ cut, unwanted c = true) :
    trimBoth unwanted (text ++ cut) = trimBoth unwanted text := by
  obtain ⟨before, behind, split, all', all'', ends⟩ :=
    trimBoth_eq_iff.mp (rfl : trimBoth unwanted text = _)
  refine trimBoth_eq_iff.mpr ⟨before, behind ++ cut, ?_, all',
    List.forall_mem_append.mpr ⟨all'', all⟩, ends⟩
  rw [← List.append_assoc, ← split]

theorem trimEnd_sublist (unwanted : Char → Bool) (text : List Char) :
    (trimEnd unwanted text).Sublist text := by
  obtain ⟨cut, whole, _⟩ := trimEnd_eq_iff.mp (rfl : trimEnd unwanted text = _)
  conv_rhs => rw [whole]
  exact List.sublist_append_left _ _

theorem trimBoth_sublist (unwanted : Char → Bool) (text : List Char) :
    (trimBoth unwanted text).Sublist text :=
  (trimEnd_sublist unwanted _).trans (List.dropWhile_sublist unwanted)

end SandboxPolicy
