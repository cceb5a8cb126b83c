import Mathlib.Data.List.MinMax
import SandboxPolicy.Proofs.EditScripts

/-!
Suggestions for mistyped names: the candidate that fewest edits lead to, if they are few enough, and
the first of those that are equally near.
-/

namespace SandboxPolicy

def distance (name candidate : String) : Nat := editDistance name.toList candidate.toList

def IsNear (name candidate : String) : Prop :=
  1 ≤ distance name candidate ∧ distance name candidate ≤ 3

instance (name candidate : String) : Decidable (IsNear name candidate) :=
  inferInstanceAs (Decidable (_ ∧ _))

def IsFirstLeast {α : Type} (cost : α → Nat) (eligible : α → Prop) (items : List α) (found : α) :
    Prop :=
  ∃ before after, items = before ++ found :: after ∧ eligible found ∧
    (∀ item ∈ before, eligible item → cost found < cost item) ∧
    ∀ item ∈ after, eligible item → cost found ≤ cost item

section FirstLeast

variable {α : Type} {cost : α → Nat} {eligible : α → Prop} {items : List α} {first found : α}

theorem isFirstLeast_cons : IsFirstLeast cost eligible (first :: items) found ↔
    (first = found ∧ eligible found ∧ ∀ item ∈ items, eligible item → cost found ≤ cost item) ∨
      ((eligible first → cost found < cost first) ∧ IsFirstLeast cost eligible items found) := by
  constructor
  · rintro ⟨before, after, split, fits, earlier, later⟩
    cases before with
    | nil =>
        obtain ⟨rfl, rfl⟩ := List.cons_eq_cons.mp split
        exact .inl ⟨rfl, fits, later⟩
    | cons item before =>
        obtain ⟨rfl, rfl⟩ := List.cons_eq_cons.mp split
        obtain ⟨dearer, earlier⟩ := List.forall_mem_cons.mp earlier
        exact .inr ⟨dearer, before, after, rfl, fits, earlier, later⟩
  · rintro (⟨rfl, fits, later⟩ | ⟨dearer, before, after, rfl, fits, earlier, later⟩)
    · exact ⟨[], items, rfl, fits, by simp, later⟩
    · exact ⟨first :: before, after, rfl, fits, List.forall_mem_cons.mpr ⟨dearer, earlier⟩, later⟩

theorem argmin_filter_eq_some [DecidablePred eligible] :
    (items.filter eligible).argmin cost = some found ↔ IsFirstLeast cost eligible items found := by
  induction items generalizing found with
  | nil => simp [IsFirstLeast]
  | cons first items ih =>
      rw [isFirstLeast_cons, ← ih]
      by_cases fits : eligible first
      · rw [List.filter_cons_of_pos (by simpa using fits), List.argmin_cons]
        cases least : (items.filter eligible).argmin cost with
        | none =>
            rw [List.argmin_eq_none, List.filter_eq_nil_iff] at least
            have barred : ∀ item ∈ items, eligible item → cost found ≤ cost item :=
              fun item member fits => absurd (decide_eq_true fits) (least item member)
            constructor
            · rintro ⟨⟩
              exact .inl ⟨rfl, fits, barred⟩
            · rintro (⟨rfl, _⟩ | ⟨_, ⟨⟩⟩)
              rfl
        | some other =>
            obtain ⟨member, fits'⟩ := List.mem_filter.mp (List.argmin_mem least)
            have lower : ∀ item ∈ items, eligible item → cost other ≤ cost item :=
              fun item member fits =>
                List.le_of_mem_argmin (List.mem_filter.mpr ⟨member, decide_eq_true fits⟩) least
            dsimp only
            split
            next dearer =>
              constructor
              · rintro ⟨⟩
                exact .inr ⟨fun _ => dearer, rfl⟩
              · rintro (⟨rfl, _, later⟩ | ⟨_, same⟩)
                · exact absurd dearer (later other member (of_decide_eq_true fits')).not_gt
                · exact same
            next cheap =>
              constructor
              · rintro ⟨⟩
                exact .inl ⟨rfl, fits, fun item member fits =>
                  (Nat.le_of_not_lt cheap).trans (lower item member fits)⟩
              · rintro (⟨rfl, _⟩ | ⟨dearer, ⟨⟩⟩)
                · rfl
                · exact absurd (dearer fits) cheap
      · rw [List.filter_cons_of_neg (by simpa using fits)]
        constructor
        · intro least
          exact .inr ⟨fun fits' => absurd fits' fits, least⟩
        · rintro (⟨rfl, fits', _⟩ | ⟨_, least⟩)
          · exact absurd fits' fits
          · exact least

end FirstLeast

variable {name found : String} {candidates : List String}

theorem closest_eq_argmin (name : String) (candidates : List String) :
    closest name candidates = (candidates.filter (IsNear name ·)).argmin (distance name) := by
  let entry (candidate : String) : String × Nat := (candidate, distance name candidate)
  have step (best : Option String) (candidate : String) :
      nearer (best.map entry) (entry candidate) =
        (List.argAux (distance name · < distance name ·) best candidate).map entry := by
    cases best with
    | none => rfl
    | some known =>
        simp only [nearer, Option.map_some, List.argAux, entry]
        split <;> split <;> first | rfl | omega
  have chosen : closest name candidates =
      ((((candidates.map entry).filter fun pair => 0 < pair.2 && pair.2 ≤ 3).foldl nearer
        none)).map Prod.fst := rfl
  have near : (fun pair : String × Nat => 0 < pair.2 && pair.2 ≤ 3) ∘ entry =
      (decide <| IsNear name ·) := by
    funext candidate
    exact (Bool.decide_and _ _).symm
  rw [chosen, List.filter_map, List.foldl_map, near, ← Option.map_none entry,
    List.foldl_hom (Option.map entry) step, Option.map_map]
  exact Option.map_id'

theorem closest_eq_some_iff : closest name candidates = some found ↔
    IsFirstLeast (distance name) (IsNear name) candidates found := by
  rw [closest_eq_argmin]
  exact argmin_filter_eq_some

theorem closest_eq_none_iff : closest name candidates = none ↔
    ∀ candidate ∈ candidates, ¬IsNear name candidate := by
  rw [closest_eq_argmin, List.argmin_eq_none, List.filter_eq_nil_iff]
  simp

/-- The distance of two names is the length of a shortest edit script between them, and so a metric.
What is suggested is the first of the nearest candidates, if any is near. -/
theorem closest_by_edits (first second third name : String) (candidates : List String) :
    IsLeast {count | Edits count first.toList second.toList} (distance first second) ∧
    distance first second = distance second first ∧
    (distance first second = 0 ↔ first = second) ∧
    distance first third ≤ distance first second + distance second third ∧
    (∀ found, closest name candidates = some found ↔
      IsFirstLeast (distance name) (IsNear name) candidates found) ∧
    (closest name candidates = none ↔ ∀ candidate ∈ candidates, ¬IsNear name candidate) := by
  refine ⟨editDistance_isLeast _ _, editDistance_comm _ _, ?_, editDistance_triangle _ _ _,
    fun found => closest_eq_some_iff, closest_eq_none_iff⟩
  rw [distance, editDistance_eq_zero_iff, String.toList_inj]

example : closest "subpat" ["literal", "subpath", "subpats"] = some "subpath" := by cbv

end SandboxPolicy
