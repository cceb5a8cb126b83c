import Mathlib.Data.List.DropRight
import SandboxPolicy.Text.Split

/-!
Texts that are cut at a mark, or behind another text. What a cut gives is told by the text itself,
joined again.
-/

namespace SandboxPolicy

theorem afterStart?_eq_some {start text rest : List Char} :
    afterStart? start text = some rest ↔ text = start ++ rest := by
  induction start generalizing text with
  | nil => simp [afterStart?]
  | cons c start ih =>
      cases text with
      | nil => simp [afterStart?]
      | cons d text =>
          by_cases same : c = d
          · simp [afterStart?, same, ih]
          · simp [afterStart?, same, Ne.symm same]

theorem splitFirst?_eq_some {mark : Char} {text before after : List Char} :
    splitFirst? mark text = some (before, after) ↔
      text = before ++ mark :: after ∧ mark ∉ before := by
  induction text generalizing before with
  | nil => simp [splitFirst?]
  | cons c rest ih =>
      by_cases same : c = mark
      · subst same
        cases before with
        | nil => simp [splitFirst?]
        | cons d before => simp +contextual [splitFirst?]
      · rw [splitFirst?, if_neg same, Option.map_eq_some_iff]
        constructor
        · rintro ⟨⟨before', after'⟩, found, parts⟩
          cases parts
          obtain ⟨rfl, absent⟩ := ih.mp found
          exact ⟨rfl, by simp [Ne.symm same, absent]⟩
        · rintro ⟨split, absent⟩
          cases before with
          | nil => exact absurd (List.cons.inj split).1 same
          | cons d before =>
              obtain ⟨rfl, later⟩ := List.cons.inj split
              rw [List.mem_cons, not_or] at absent
              exact ⟨(before, after), ih.mpr ⟨later, absent.2⟩, rfl⟩

theorem splitLast?_eq_none {mark : Char} {text : List Char} :
    splitLast? mark text = none ↔ mark ∉ text := by
  induction text with
  | nil => simp [splitLast?]
  | cons c text ih =>
      rw [splitLast?, List.mem_cons, not_or, ← ih]
      cases splitLast? mark text with
      | some parts => simp
      | none => simp [eq_comm]

theorem splitLast?_eq_some {mark : Char} {text front back : List Char} :
    splitLast? mark text = some (front, back) ↔ text = front ++ mark :: back ∧ mark ∉ back := by
  constructor
  · intro found
    induction text generalizing front with
    | nil => cases found
    | cons c text ih =>
        rw [splitLast?] at found
        split at found
        next parts later =>
          obtain ⟨rfl, rfl⟩ := Prod.mk.inj (Option.some.inj found)
          obtain ⟨split, absent⟩ := ih later
          exact ⟨congrArg _ split, absent⟩
        next nothing =>
          split at found
          next same =>
            obtain ⟨rfl, rfl⟩ := Prod.mk.inj (Option.some.inj found)
            exact ⟨by rw [same]; rfl, splitLast?_eq_none.mp nothing⟩
          next => cases found
  · rintro ⟨rfl, absent⟩
    induction front with
    | nil => simp [splitLast?, splitLast?_eq_none.mpr absent]
    | cons c front ih => simp [splitLast?, ih]

/-! All parts of a text. -/

theorem intercalate_append {mark : Char} {front back : List (List Char)} (nonempty : front ≠ [])
    (nonempty' : back ≠ []) : [mark].intercalate (front ++ back) =
      [mark].intercalate front ++ mark :: [mark].intercalate back := by
  induction front with
  | nil => exact absurd rfl nonempty
  | cons part front ih =>
      cases front with
      | nil => simp [List.intercalate_cons_of_ne_nil nonempty']
      | cons next front =>
          have joined := ih (List.cons_ne_nil next front)
          rw [List.cons_append] at joined
          rw [List.cons_append, List.cons_append, List.intercalate_cons_cons, joined,
            List.intercalate_cons_cons]
          simp

theorem splitOn_prefix_iff {mark : Char} {front text : List Char} :
    front.splitOn mark <+: text.splitOn mark ↔
      text = front ∨ ∃ rest, text = front ++ mark :: rest := by
  constructor
  · rintro ⟨parts, split⟩
    have joined : text = [mark].intercalate (front.splitOn mark ++ parts) := by
      rw [split, List.intercalate_splitOn]
    by_cases nothing : parts = []
    · rw [nothing, List.append_nil, List.intercalate_splitOn] at joined
      exact .inl joined
    · rw [intercalate_append (List.splitOn_ne_nil mark front) nothing,
        List.intercalate_splitOn] at joined
      exact .inr ⟨_, joined⟩
  · rintro (rfl | ⟨rest, rfl⟩)
    · exact List.prefix_rfl
    · rw [List.splitOn_append_cons_self]
      exact List.prefix_append _ _

theorem splitOn_append_marks {mark : Char} {text cut : List Char} (all : ∀ c ∈ cut, c = mark) :
    (text ++ cut).splitOn mark = text.splitOn mark ++ List.replicate cut.length [] := by
  induction cut generalizing text with
  | nil => simp
  | cons c cut ih =>
      obtain ⟨rfl, all⟩ := List.forall_mem_cons.mp all
      have behind : ([] ++ cut).splitOn c = _ := ih all
      rw [List.nil_append, List.splitOn_nil] at behind
      rw [List.splitOn_append_cons_self, behind]
      rfl

theorem rdropWhile_splitOn {mark : Char} {text : List Char} (nonempty : text ≠ [])
    (last : ∀ c ∈ text.getLast?, c ≠ mark) :
    (text.splitOn mark).rdropWhile List.isEmpty = text.splitOn mark := by
  rw [List.rdropWhile_eq_self_iff]
  intro parts isEmpty
  have joined : [mark].intercalate (text.splitOn mark) = text := List.intercalate_splitOn mark
  rw [← List.dropLast_append_getLast parts, List.isEmpty_iff.mp isEmpty] at joined
  by_cases single : (text.splitOn mark).dropLast = []
  · rw [single] at joined
    exact nonempty joined.symm
  · rw [intercalate_append single (List.cons_ne_nil _ _)] at joined
    exact last mark (by rw [← joined]; simp) rfl

theorem rdropWhile_append_replicate (parts : List (List Char)) (count : Nat) :
    (parts ++ List.replicate count []).rdropWhile List.isEmpty =
      parts.rdropWhile List.isEmpty := by
  induction count with
  | zero => simp
  | succ count ih =>
      rw [List.replicate_succ', ← List.append_assoc, List.rdropWhile_concat_pos _ _ _ rfl, ih]

theorem rdropWhile_splitOn_append {mark : Char} {kept cut : List Char}
    (all : ∀ c ∈ cut, c = mark) (last : ∀ c ∈ kept.getLast?, c ≠ mark) :
    ((kept ++ cut).splitOn mark).rdropWhile List.isEmpty =
      if kept = [] then [] else kept.splitOn mark := by
  rw [splitOn_append_marks all, rdropWhile_append_replicate]
  split
  next nothing =>
    rw [nothing]
    rfl
  next something => exact rdropWhile_splitOn something last

end SandboxPolicy
