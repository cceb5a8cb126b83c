import Mathlib
import SandboxPolicy.Proofs.Coverage

/-!
Coverage as an order of the operations. What covers an operation lies in one line from it up to
`default`, so what two names cover is either nested or apart.
-/

namespace SandboxPolicy.OperationTable

theorem nameCovers_comparable {first second name : List Char}
    (upper : nameCovers first name = true) (lower : nameCovers second name = true) :
    first = second ∨ nameCovers first second = true ∨ nameCovers second first = true := by
  obtain ⟨stem, rest, starred, split⟩ := nameCovers_iff.mp upper
  obtain ⟨stem', rest', starred', split'⟩ := nameCovers_iff.mp lower
  -- Behind the shorter stem the longer one goes on with the hyphen that is there in the name.
  rcases List.append_eq_append_iff.mp (split.symm.trans split') with
    ⟨middle, longer, behind⟩ | ⟨middle, longer, behind⟩
  · cases middle with
    | nil => exact .inl (by rw [starred, starred', longer, List.append_nil])
    | cons c middle =>
        obtain ⟨rfl, _⟩ := List.cons_eq_cons.mp behind
        refine .inr (.inl (nameCovers_iff.mpr ⟨stem, middle ++ ['*'], starred, ?_⟩))
        rw [starred', longer, List.append_assoc, List.cons_append]
  · cases middle with
    | nil => exact .inl (by rw [starred, starred', longer, List.append_nil])
    | cons c middle =>
        obtain ⟨rfl, _⟩ := List.cons_eq_cons.mp behind
        refine .inr (.inr (nameCovers_iff.mpr ⟨stem', middle ++ ['*'], starred', ?_⟩))
        rw [starred, longer, List.append_assoc, List.cons_append]

theorem nameCovers_asymm {first second : List Char} (upper : nameCovers first second = true) :
    nameCovers second first = false := by
  rw [Bool.eq_false_iff]
  intro lower
  obtain ⟨stem, rest, starred, split⟩ := nameCovers_iff.mp upper
  obtain ⟨stem', rest', starred', split'⟩ := nameCovers_iff.mp lower
  have lengths : rest = [] := by
    have long := congrArg List.length split
    have long' := congrArg List.length split'
    rw [starred] at long'
    rw [starred'] at long
    simp only [List.length_append, List.length_cons, List.length_nil] at long long'
    exact List.length_eq_zero_iff.mp (by omega)
  have ends := starred'.symm.trans (split.trans (by rw [lengths]))
  exact absurd (List.append_inj' ends rfl).2 (by decide)

variable {table : OperationTable} {first second slot : Nat}

theorem eq_of_name? {name : String} (named : table.name? first = some name)
    (named' : table.name? second = some name) : first = second := by
  obtain ⟨bound, same⟩ := List.getElem?_eq_some_iff.mp named
  obtain ⟨bound', same'⟩ := List.getElem?_eq_some_iff.mp named'
  exact table.distinct.getElem_inj_iff.mp (same.trans same'.symm)

theorem covers_antisymm (upper : table.covers first second = true)
    (lower : table.covers second first = true) : first = second := by
  by_contra other
  by_cases zero : first = 0
  · subst zero
    exact other (table.eq_zero_of_covers_zero lower).symm
  by_cases zero' : second = 0
  · subst zero'
    exact other (table.eq_zero_of_covers_zero upper)
  obtain ⟨name, name', named, named', covers⟩ := (table.covers_of_ne other zero).mp upper
  obtain ⟨_, _, known', known, covers'⟩ := (table.covers_of_ne (Ne.symm other) zero').mp lower
  cases named.symm.trans known
  cases named'.symm.trans known'
  rw [nameCovers_asymm covers] at covers'
  cases covers'

theorem covers_comparable (upper : table.covers first slot = true)
    (lower : table.covers second slot = true) :
    table.covers first second = true ∨ table.covers second first = true := by
  by_cases same : first = slot
  · exact .inr (same ▸ lower)
  by_cases same' : second = slot
  · exact .inl (same' ▸ upper)
  by_cases zero : first = 0
  · exact .inl (zero ▸ table.covers_zero second)
  by_cases zero' : second = 0
  · exact .inr (zero' ▸ table.covers_zero first)
  obtain ⟨name, asked, named, found, covers⟩ := (table.covers_of_ne same zero).mp upper
  obtain ⟨name', asked', named', found', covers'⟩ := (table.covers_of_ne same' zero').mp lower
  cases found.symm.trans found'
  by_cases one : first = second
  · exact .inl (one ▸ table.covers_refl first)
  rcases nameCovers_comparable covers covers' with alike | above | below
  · exact absurd (eq_of_name? named (String.toList_inj.mp alike ▸ named')) one
  · exact .inl ((table.covers_of_ne one zero).mpr ⟨name, name', named, named', above⟩)
  · exact .inr ((table.covers_of_ne (Ne.symm one) zero').mpr ⟨name', name, named', named, below⟩)

def covered (table : OperationTable) (name : String) : List Nat :=
  (List.range table.size).filter fun slot =>
    (table.resolve name).any fun ruleSlot => table.covers ruleSlot slot

def covering (table : OperationTable) (slot : Nat) : List Nat :=
  (List.range table.size).filter fun upper => table.covers upper slot

theorem mem_covered {name : String} : slot ∈ table.covered name ↔
    slot < table.size ∧ ∃ ruleSlot, table.resolve name = some ruleSlot ∧
      table.covers ruleSlot slot = true := by
  simp [covered, Option.any_eq_true]

theorem mem_covering {upper : Nat} : upper ∈ table.covering slot ↔
    upper < table.size ∧ table.covers upper slot = true := by
  simp [covering]

theorem covered_subset {name other : String} (named : table.resolve name = some first)
    (named' : table.resolve other = some second) (upper : table.covers first second = true) :
    table.covered other ⊆ table.covered name := by
  intro slot member
  obtain ⟨bound, ruleSlot, found, lower⟩ := mem_covered.mp member
  cases named'.symm.trans found
  exact mem_covered.mpr ⟨bound, first, named, table.covers_trans upper lower⟩

theorem covered_nested_or_disjoint (table : OperationTable) (name other : String) :
    table.covered name ⊆ table.covered other ∨ table.covered other ⊆ table.covered name ∨
      (table.covered name).Disjoint (table.covered other) := by
  by_cases apart : (table.covered name).Disjoint (table.covered other)
  · exact .inr (.inr apart)
  · simp only [List.Disjoint, not_forall, not_false_eq_true, exists_prop] at apart
    obtain ⟨slot, member, member', _⟩ := apart
    obtain ⟨_, first, named, covers⟩ := mem_covered.mp member
    obtain ⟨_, second, named', covers'⟩ := mem_covered.mp member'
    rcases covers_comparable covers covers' with above | below
    · exact .inr (.inl (covered_subset named named' above))
    · exact .inl (covered_subset named' named below)

/-- The slots stand in a line from the lowest up to `default`: each is covered by those behind
it. -/
structure Ascent (table : OperationTable) (lowest : Nat) (slots : List Nat) : Prop where
  begins : slots.head? = some lowest
  ends : slots.getLast? = some 0
  distinct : slots.Nodup
  upward : slots.Pairwise fun lower upper => table.covers upper lower = true

theorem exists_ordered (table : OperationTable) (slot : Nat) :
    ∃ slots : List Nat, slots.Perm (table.covering slot) ∧
      slots.Pairwise fun lower upper => table.covers upper lower = true := by
  let below (lower upper : { upper // upper ∈ table.covering slot }) : Bool :=
    table.covers upper.1 lower.1
  have transitive (first second third : { upper // upper ∈ table.covering slot })
      (lower : below first second = true) (upper : below second third = true) :
      below first third = true := table.covers_trans upper lower
  have total (first second : { upper // upper ∈ table.covering slot }) :
      (below first second || below second first) = true := by
    rw [Bool.or_eq_true]
    exact covers_comparable (mem_covering.mp second.2).2 (mem_covering.mp first.2).2
  refine ⟨((table.covering slot).attach.mergeSort below).map Subtype.val, ?_, ?_⟩
  · have same := (List.mergeSort_perm (table.covering slot).attach below).map Subtype.val
    rwa [List.attach_map_subtype_val] at same
  · exact List.pairwise_map.mpr (List.pairwise_mergeSort transitive total _)

theorem exists_ascent (bound : slot < table.size) :
    ∃ slots, table.Ascent slot slots ∧
      ∀ upper, upper ∈ slots ↔ upper < table.size ∧ table.covers upper slot = true := by
  obtain ⟨slots, same, upward⟩ := exists_ordered table slot
  have member (upper : Nat) :
      upper ∈ slots ↔ upper < table.size ∧ table.covers upper slot = true :=
    same.mem_iff.trans mem_covering
  have lowest : slot ∈ slots := (member slot).mpr ⟨bound, table.covers_refl slot⟩
  have highest : 0 ∈ slots := (member 0).mpr ⟨Nat.zero_lt_of_lt bound, table.covers_zero slot⟩
  refine ⟨slots, ⟨?_, ?_, ?_, upward⟩, member⟩
  · obtain ⟨first, rest, rfl⟩ := List.exists_cons_of_ne_nil (List.ne_nil_of_mem lowest)
    rcases List.mem_cons.mp lowest with rfl | behind
    · rfl
    · have above := (List.pairwise_cons.mp upward).1 slot behind
      have below := ((member first).mp List.mem_cons_self).2
      rw [covers_antisymm above below]
      rfl
  · obtain ⟨last, found⟩ := Option.isSome_iff_exists.mp
      (List.getLast?_isSome.mpr (List.ne_nil_of_mem lowest))
    obtain ⟨front, rfl⟩ := List.getLast?_eq_some_iff.mp found
    rw [found]
    rcases List.mem_append.mp highest with before | isLast
    · have above := (List.pairwise_append.mp upward).2.2 0 before last (by simp)
      rw [table.eq_zero_of_covers_zero above]
    · rw [List.mem_singleton.mp isLast]
  · exact same.nodup_iff.mpr (List.nodup_range.filter _)

structure Laminar (table : OperationTable) : Prop where
  refl : ∀ slot < table.size, table.covers slot slot = true
  trans : ∀ first second third, table.covers first second = true →
    table.covers second third = true → table.covers first third = true
  antisymm : ∀ first second, table.covers first second = true →
    table.covers second first = true → first = second
  top : ∀ slot < table.size, table.covers 0 slot = true
  only : ∀ upper, table.covers upper 0 = true → upper = 0
  comparable : ∀ first second slot, table.covers first slot = true →
    table.covers second slot = true →
    table.covers first second = true ∨ table.covers second first = true
  nested : ∀ name other, table.covered name ⊆ table.covered other ∨
    table.covered other ⊆ table.covered name ∨
    (table.covered name).Disjoint (table.covered other)
  line : ∀ slot < table.size, ∃ slots, table.Ascent slot slots ∧
    ∀ upper, upper ∈ slots ↔ upper < table.size ∧ table.covers upper slot = true

/-- Whatever names a table has, those with a star in odd places too, the operations that each of
them covers are nested in those of another or apart from them. -/
theorem covers_laminar (table : OperationTable) : table.Laminar where
  refl slot _ := table.covers_refl slot
  trans _ _ _ := table.covers_trans
  antisymm _ _ := covers_antisymm
  top slot _ := table.covers_zero slot
  only _ := table.eq_zero_of_covers_zero
  comparable _ _ _ := covers_comparable
  nested := covered_nested_or_disjoint table
  line _ := exists_ascent

/-- A star alone covers what begins with a dash. -/
example : covering ⟨["default", "*", "-*", "--a", "a"], by decide, rfl, by decide⟩ 3 =
    [0, 1, 2, 3] := by cbv

end SandboxPolicy.OperationTable
