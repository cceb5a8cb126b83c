import Mathlib.Data.List.Induction
import Mathlib.Data.List.Nodup
import SandboxPolicy.Bytecode.Interner

/-!
What an interner holds: distinct values, each at the place where the values before it end.
-/

namespace SandboxPolicy.Interner

variable {α : Type} {width : α → Nat} {values more before after : List α} {value other : α}
  {place : Nat}

def extent (width : α → Nat) : List α → Nat
  | [] => 0
  | value :: values => width value + extent width values

def StandsAt (width : α → Nat) (values : List α) (value : α) (place : Nat) : Prop :=
  ∃ before after, values = before ++ value :: after ∧ place = extent width before

@[simp] theorem extent_nil : extent width [] = 0 := rfl

@[simp] theorem extent_cons :
    extent width (value :: values) = width value + extent width values := rfl

@[simp] theorem extent_append :
    extent width (values ++ more) = extent width values + extent width more := by
  induction values with
  | nil => simp
  | cons value values ih => simp [ih, Nat.add_assoc]

theorem extent_one (values : List α) : extent (fun _ => 1) values = values.length := by
  induction values with
  | nil => rfl
  | cons value values ih => simp [ih, Nat.add_comm]

theorem StandsAt.mem (stands : StandsAt width values value place) : value ∈ values := by
  obtain ⟨before, after, rfl, _⟩ := stands
  simp

theorem StandsAt.append (stands : StandsAt width values value place) (more : List α) :
    StandsAt width (values ++ more) value place := by
  obtain ⟨before, after, rfl, start⟩ := stands
  exact ⟨before, after ++ more, by simp, start⟩

theorem StandsAt.grow (stands : StandsAt width values value place) (grown : values <+: more) :
    StandsAt width more value place := by
  obtain ⟨rest, rfl⟩ := grown
  exact stands.append rest

theorem standsAt_one : StandsAt (fun _ => 1) values value place ↔ values[place]? = some value := by
  constructor
  · rintro ⟨before, after, rfl, rfl⟩
    simp [extent_one]
  · intro found
    obtain ⟨bound, rfl⟩ := List.getElem?_eq_some_iff.mp found
    refine ⟨values.take place, values.drop (place + 1), ?_, ?_⟩
    · rw [List.getElem_cons_drop, List.take_append_drop]
    · rw [extent_one, List.length_take]
      omega

theorem exists_standsAt (width : α → Nat) (member : value ∈ values) :
    ∃ place, StandsAt width values value place := by
  obtain ⟨before, after, split⟩ := List.append_of_mem member
  exact ⟨_, before, after, split, rfl⟩

theorem standsAt_concat :
    StandsAt width (values ++ [other]) value place ↔
      StandsAt width values value place ∨ (value = other ∧ place = extent width values) := by
  constructor
  · rintro ⟨before, after, split, start⟩
    rcases List.eq_nil_or_concat after with last | ⟨rest, final, last⟩
    · subst last
      obtain ⟨rfl, same⟩ := List.append_inj' split rfl
      exact Or.inr ⟨(List.cons.inj same).1.symm, start⟩
    · rw [last, List.concat_eq_append, ← List.cons_append, ← List.append_assoc] at split
      exact Or.inl ⟨before, rest, (List.append_inj' split rfl).1, start⟩
  · rintro (stands | ⟨rfl, rfl⟩)
    · exact stands.append _
    · exact ⟨values, [], rfl, rfl⟩

variable [BEq α] [Hashable α]

/-- The values are distinct, and the table of places is exactly their inverse. -/
structure Sound (width : α → Nat) (interner : Interner α) : Prop where
  distinct : interner.entries.toList.Nodup
  next_eq : interner.next = extent width interner.entries.toList
  find?_iff : ∀ value place,
    interner.find? value = some place ↔ StandsAt width interner.entries.toList value place

theorem empty_sound (width : α → Nat) : (empty : Interner α).Sound width := by
  refine ⟨by simp [empty], by simp [empty], ?_⟩
  intro value place
  simp only [empty, find?, Std.HashMap.getElem?_empty, reduceCtorEq, false_iff]
  intro stands
  exact absurd stands.mem (by simp)

variable {interner : Interner α}

theorem Sound.mem_of_find? (sound : interner.Sound width)
    (found : interner.find? value = some place) : value ∈ interner.entries.toList :=
  ((sound.find?_iff value place).mp found).mem

theorem Sound.find?_eq_none_iff (sound : interner.Sound width) (value : α) :
    interner.find? value = none ↔ value ∉ interner.entries.toList := by
  constructor
  · intro missing member
    obtain ⟨place, stands⟩ := exists_standsAt width member
    simp [(sound.find?_iff value place).mpr stands] at missing
  · intro absent
    cases found : interner.find? value with
    | none => rfl
    | some place => exact absurd (sound.mem_of_find? found) absent

theorem Sound.place_unique {place' : Nat} (sound : interner.Sound width)
    (one : StandsAt width interner.entries.toList value place)
    (other : StandsAt width interner.entries.toList value place') : place = place' := by
  rw [← sound.find?_iff] at one other
  exact Option.some.inj (one.symm.trans other)

@[simp] theorem add_entries (interner : Interner α) (value : α) (size : Nat) :
    (interner.add value size).entries.toList = interner.entries.toList ++ [value] := by
  simp [add]

theorem Sound.add [LawfulBEq α] [LawfulHashable α] (sound : interner.Sound width)
    (fresh : interner.find? value = none) :
    (interner.add value (width value)).Sound width := by
  have absent := (sound.find?_eq_none_iff value).mp fresh
  refine ⟨?_, ?_, ?_⟩
  · rw [add_entries, List.nodup_append]
    refine ⟨sound.distinct, by simp, ?_⟩
    intro old member new isNew same
    exact absent (by rwa [← List.mem_singleton.mp isNew, ← same])
  · rw [add_entries, extent_append]
    simp [Interner.add, sound.next_eq]
  · intro wanted place
    rw [add_entries, standsAt_concat, ← sound.find?_iff wanted place]
    simp only [Interner.add, find?, Std.HashMap.getElem?_insert, sound.next_eq]
    by_cases same : value = wanted
    · subst same
      have missing : interner.places[value]? = none := fresh
      simp [missing, eq_comm]
    · simp [same, Ne.symm same]

end SandboxPolicy.Interner
