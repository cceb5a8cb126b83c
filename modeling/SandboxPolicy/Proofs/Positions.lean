import Mathlib
import SandboxPolicy.Text.Position

/-!
Positions of offsets. The line counts the newlines among the characters that start before an offset,
and the column the characters behind the last of them. No two offsets between characters have one
position: going to its line and then to its column leads back to the offset.
-/

namespace SandboxPolicy

open String (utf8Len)

/-! The characters before an offset. -/

theorem charsBefore_cons {offset : Nat} (c : Char) (rest : List Char) (positive : 0 < offset) :
    charsBefore offset (c :: rest) = c :: charsBefore (offset - c.utf8Size) rest := by
  cases offset with
  | zero => omega
  | succ offset => rw [charsBefore]

theorem charsBefore_append (first rest : List Char) (offset : Nat) :
    charsBefore (offset + utf8Len first) (first ++ rest) = first ++ charsBefore offset rest := by
  induction first with
  | nil => rfl
  | cons c first ih =>
      have positive := c.utf8Size_pos
      have place : offset + utf8Len (c :: first) - c.utf8Size = offset + utf8Len first := by
        rw [String.utf8Len_cons]
        omega
      rw [List.cons_append, charsBefore_cons _ _ (by rw [String.utf8Len_cons]; omega), place, ih,
        List.cons_append]

theorem charsBefore_utf8Len (front rest : List Char) :
    charsBefore (utf8Len front) (front ++ rest) = front := by
  have chars := charsBefore_append front rest 0
  rwa [Nat.zero_add, charsBefore, List.append_nil] at chars

def charStarts (offset : Nat) : List Char → List (Nat × Char)
  | [] => []
  | c :: rest => (offset, c) :: charStarts (offset + c.utf8Size) rest

/-- The characters that start before the offset, which may be inside of one or behind all. -/
def startedChars (source : String) (offset : Nat) : List Char :=
  ((charStarts 0 source.toList).filter fun (start, _) => start < offset).map Prod.snd

theorem charsBefore_eq_filter (text : List Char) (start offset : Nat) :
    charsBefore (offset - start) text =
      ((charStarts start text).filter fun (start, _) => start < offset).map Prod.snd := by
  induction text generalizing start with
  | nil => cases offset - start <;> rfl
  | cons c rest ih =>
      rw [charStarts]
      by_cases begun : start < offset
      · rw [charsBefore_cons c rest (Nat.sub_pos_of_lt begun), Nat.sub_sub, ih,
          List.filter_cons_of_pos (by simpa using begun), List.map_cons]
      · have none : offset - (start + c.utf8Size) = 0 := by omega
        have later := ih (start + c.utf8Size)
        rw [none, charsBefore] at later
        rw [Nat.sub_eq_zero_of_le (Nat.le_of_not_lt begun), charsBefore,
          List.filter_cons_of_neg (by simpa using begun), ← later]

/-! Lines and columns. -/

namespace Position

theorem foldl_after_line (text : List Char) (line column before : Nat) :
    text.foldl after ⟨line + before, column⟩ =
      ⟨(text.foldl after ⟨line, column⟩).line + before,
        (text.foldl after ⟨line, column⟩).column⟩ := by
  induction text generalizing line column with
  | nil => rfl
  | cons c text ih =>
      rw [List.foldl_cons, List.foldl_cons, after, after]
      split_ifs
      · dsimp only
        rw [Nat.add_right_comm, ih]
      · exact ih line (column + 1)

theorem foldl_after_count (text : List Char) (position : Position) :
    (text.foldl after position).line = position.line + text.count '\n' := by
  induction text generalizing position with
  | nil => rfl
  | cons c text ih =>
      rw [List.foldl_cons, ih, after]
      by_cases newline : c = '\n'
      · rw [if_pos newline, newline, List.count_cons_self]
        change position.line + 1 + _ = _
        omega
      · rw [if_neg newline, List.count_cons_of_ne newline]

theorem foldl_after_column (front : List Char) :
    (front.foldl after start).column = (front.reverse.takeWhile (· ≠ '\n')).length + 1 := by
  induction front using List.reverseRecOn with
  | nil => rfl
  | append_singleton front c ih =>
      rw [List.foldl_append, List.foldl_cons, List.foldl_nil, after, List.reverse_append,
        List.reverse_singleton, List.singleton_append]
      by_cases newline : c = '\n'
      · simp [newline]
      · simp [newline, ih]

theorem foldl_after_start (front : List Char) : front.foldl after start =
    ⟨front.count '\n' + 1, (front.reverse.takeWhile (· ≠ '\n')).length + 1⟩ := by
  have line := foldl_after_count front start
  rw [start, Nat.add_comm] at line
  rw [← foldl_after_column, ← line]
  rfl

def rank (position : Position) : ℕ ×ₗ ℕ := toLex (position.line, position.column)

theorem rank_lt_after (position : Position) (c : Char) :
    position.rank < (position.after c).rank := by
  rw [rank, rank, Prod.Lex.toLex_lt_toLex, after]
  split
  next => exact .inl (Nat.lt_succ_self _)
  next => exact .inr ⟨rfl, Nat.lt_succ_self _⟩

theorem rank_le_foldl (position : Position) (text : List Char) :
    position.rank ≤ (text.foldl after position).rank := by
  induction text generalizing position with
  | nil => exact le_refl _
  | cons c text ih => exact (rank_lt_after position c).le.trans (ih _)

end Position

theorem positionAt_boundary {source : String} {front rest : List Char}
    (split : source.toList = front ++ rest) : positionAt source (utf8Len front) =
      ⟨front.count '\n' + 1, (front.reverse.takeWhile (· ≠ '\n')).length + 1⟩ := by
  rw [positionAt, split, charsBefore_utf8Len, Position.foldl_after_start]

theorem positionAt_lt {source : String} {front rest : List Char} {c : Char} {offset : Nat}
    (split : source.toList = front ++ c :: rest) (behind : utf8Len front < offset) :
    (positionAt source (utf8Len front)).rank < (positionAt source offset).rank := by
  have there := charsBefore_append front (c :: rest) (offset - utf8Len front)
  rw [Nat.sub_add_cancel behind.le, charsBefore_cons c rest (Nat.sub_pos_of_lt behind)] at there
  rw [positionAt, positionAt, split, charsBefore_utf8Len, there, List.foldl_append,
    List.foldl_cons]
  exact (Position.rank_lt_after _ c).trans_le (Position.rank_le_foldl _ _)

/-! Offsets of positions. -/

def bytesTo : (newlines chars : Nat) → List Char → Option Nat
  | 0, 0, _ => some 0
  | _, _, [] => none
  | 0, chars + 1, c :: rest =>
      if c = '\n' then none else (bytesTo 0 chars rest).map (c.utf8Size + ·)
  | newlines + 1, chars, c :: rest =>
      (bytesTo (if c = '\n' then newlines else newlines + 1) chars rest).map (c.utf8Size + ·)

def offsetAt (source : String) : Position → Option Nat
  | ⟨line + 1, column + 1⟩ => bytesTo line column source.toList
  | _ => none

theorem length_takeWhile_cons (c : Char) (front : List Char) :
    ((c :: front).reverse.takeWhile (· ≠ '\n')).length =
      if '\n' ∈ c :: front then (front.reverse.takeWhile (· ≠ '\n')).length
      else (front.reverse.takeWhile (· ≠ '\n')).length + 1 := by
  rw [List.reverse_cons]
  by_cases inside : '\n' ∈ front
  · -- The last line begins behind the character in front, which it does not reach.
    obtain ⟨last, earlier, split, fresh⟩ :=
      List.eq_append_cons_of_mem (List.mem_reverse.mpr inside)
    have plain : ∀ other ∈ last, other ≠ '\n' := fun other member same => fresh (same ▸ member)
    rw [if_pos (List.mem_cons_of_mem c inside), split, List.append_assoc, List.cons_append,
      List.takeWhile_append_of_pos (by simpa using plain),
      List.takeWhile_append_of_pos (by simpa using plain)]
    simp
  · have plain : ∀ other ∈ front.reverse, other ≠ '\n' :=
      fun other member same => inside (same ▸ List.mem_reverse.mp member)
    have whole : front.reverse.takeWhile (· ≠ '\n') = front.reverse :=
      List.takeWhile_eq_self_iff.mpr (by simpa using plain)
    rw [whole, List.takeWhile_append_of_pos (by simpa using plain)]
    by_cases newline : c = '\n'
    · simp [newline]
    · simp [newline, Ne.symm newline, inside]

theorem bytesTo_append (front rest : List Char) :
    bytesTo (front.count '\n') (front.reverse.takeWhile (· ≠ '\n')).length (front ++ rest) =
      some (utf8Len front) := by
  -- A character is passed on the way to a newline behind it, or else as one of the last line.
  induction front with
  | nil =>
      rw [List.count_nil, List.reverse_nil, List.takeWhile_nil, List.length_nil, bytesTo]
      rfl
  | cons c front ih =>
      rw [length_takeWhile_cons, List.cons_append, String.utf8Len_cons,
        Nat.add_comm (utf8Len front)]
      by_cases newline : c = '\n'
      · rw [newline, List.count_cons_self, if_pos List.mem_cons_self, bytesTo, if_pos rfl, ih,
          Option.map_some]
      rw [List.count_cons_of_ne newline]
      by_cases inside : '\n' ∈ front
      · obtain ⟨newlines, count⟩ := Nat.exists_eq_add_one.mpr (List.count_pos_iff.mpr inside)
        rw [count] at ih ⊢
        rw [if_pos (List.mem_cons_of_mem c inside), bytesTo, if_neg newline, ih, Option.map_some]
      · have unbroken : '\n' ∉ c :: front :=
          List.not_mem_cons_of_ne_of_not_mem (Ne.symm newline) inside
        rw [List.count_eq_zero.mpr inside] at ih ⊢
        rw [if_neg unbroken, bytesTo, if_neg newline, ih, Option.map_some]

theorem exists_of_bytesTo {newlines chars offset : Nat} {text : List Char}
    (found : bytesTo newlines chars text = some offset) : ∃ front rest,
      text = front ++ rest ∧ offset = utf8Len front ∧ front.count '\n' = newlines ∧
        (front.reverse.takeWhile (· ≠ '\n')).length = chars := by
  fun_induction bytesTo newlines chars text generalizing offset with
  | case1 text =>
      obtain rfl := Option.some.inj found
      exact ⟨[], text, rfl, rfl, rfl, rfl⟩
  | case2 => cases found
  | case3 => cases found
  | case4 chars c rest other ih =>
      obtain ⟨bytes, further, rfl⟩ := Option.map_eq_some_iff.mp found
      obtain ⟨front, rest, rfl, rfl, count, length⟩ := ih further
      have total : (c :: front).count '\n' = 0 := by rw [List.count_cons_of_ne other, count]
      refine ⟨c :: front, rest, rfl, ?_, total, ?_⟩
      · rw [String.utf8Len_cons, Nat.add_comm]
      · rw [length_takeWhile_cons, if_neg (List.count_eq_zero.mp total), length]
  | case5 newlines chars c rest ih =>
      obtain ⟨bytes, further, rfl⟩ := Option.map_eq_some_iff.mp found
      obtain ⟨front, rest, rfl, rfl, count, length⟩ := ih further
      have total : (c :: front).count '\n' = newlines + 1 := by
        by_cases newline : c = '\n'
        · rw [newline, List.count_cons_self, count, if_pos newline]
        · rw [List.count_cons_of_ne newline, count, if_neg newline]
      have ended : '\n' ∈ c :: front := List.count_pos_iff.mp (total ▸ Nat.succ_pos newlines)
      refine ⟨c :: front, rest, rfl, ?_, total, ?_⟩
      · rw [String.utf8Len_cons, Nat.add_comm]
      · rw [length_takeWhile_cons, if_pos ended, length]

def boundaries (source : String) : Set Nat := {offset | (⟨offset⟩ : String.Pos.Raw).IsValid source}

instance (source : String) : DecidablePred (· ∈ boundaries source) := fun offset =>
  inferInstanceAs (Decidable ((⟨offset⟩ : String.Pos.Raw).IsValid source))

theorem mem_boundaries {source : String} {offset : Nat} : offset ∈ boundaries source ↔
    ∃ front rest, source.toList = front ++ rest ∧ offset = utf8Len front := by
  refine String.Pos.Raw.isValid_iff_exists_append.trans ⟨?_, ?_⟩
  · rintro ⟨front, rest, rfl, place⟩
    refine ⟨front.toList, rest.toList, String.toList_append, ?_⟩
    rw [← String.utf8ByteSize_ofList, String.ofList_toList]
    exact congrArg String.Pos.Raw.byteIdx place
  · rintro ⟨front, rest, split, rfl⟩
    refine ⟨String.ofList front, String.ofList rest, ?_, ?_⟩
    · rw [← String.ofList_append, ← split, String.ofList_toList]
    · rw [String.rawEndPos, String.utf8ByteSize_ofList]

theorem positionAt_strictMonoOn (source : String) :
    StrictMonoOn (fun offset => (positionAt source offset).rank) (boundaries source) := by
  intro first bounded second bounded' behind
  obtain ⟨front, rest, split, rfl⟩ := mem_boundaries.mp bounded
  obtain ⟨front', rest', split', rfl⟩ := mem_boundaries.mp bounded'
  cases rest with
  | nil =>
      -- Nothing is behind the last of the boundaries.
      have within := congrArg utf8Len (split.symm.trans split')
      rw [List.append_nil, String.utf8Len_append] at within
      omega
  | cons c rest => exact positionAt_lt split behind

theorem offsetAt_eq_some {source : String} {offset : Nat} {position : Position} :
    offsetAt source position = some offset ↔
      offset ∈ boundaries source ∧ positionAt source offset = position := by
  rw [mem_boundaries]
  constructor
  · intro found
    match position with
    | ⟨0, _⟩ | ⟨_ + 1, 0⟩ => cases found
    | ⟨line + 1, column + 1⟩ =>
        obtain ⟨front, rest, split, rfl, count, length⟩ := exists_of_bytesTo found
        exact ⟨⟨front, rest, split, rfl⟩, by rw [positionAt_boundary split, count, length]⟩
  · rintro ⟨⟨front, rest, split, rfl⟩, rfl⟩
    rw [positionAt_boundary split, offsetAt, split, bytesTo_append]

/-- The position of an offset is counted over the characters that start before it. Of the offsets
between characters a later one has a later position, so they have different ones, and an offset is
found again by its position. -/
theorem positionAt_identifies (source : String) :
    (∀ offset, positionAt source offset =
      ⟨(startedChars source offset).count '\n' + 1,
        ((startedChars source offset).reverse.takeWhile (· ≠ '\n')).length + 1⟩) ∧
    StrictMonoOn (fun offset => (positionAt source offset).rank) (boundaries source) ∧
    Set.InjOn (positionAt source) (boundaries source) ∧
    ∀ offset position, offsetAt source position = some offset ↔
      offset ∈ boundaries source ∧ positionAt source offset = position := by
  have increasing := positionAt_strictMonoOn source
  refine ⟨fun offset => ?_, increasing, ?_, fun offset position => offsetAt_eq_some⟩
  · rw [← Position.foldl_after_start, startedChars, ← charsBefore_eq_filter, Nat.sub_zero,
      positionAt]
  · intro first bounded second bounded' same
    exact increasing.injOn bounded bounded' (congrArg Position.rank same)

theorem positionAt_identifies_accented :
    (2 ∈ boundaries "é\nz" ∧ 3 ∈ boundaries "é\nz") ∧
    (positionAt "é\nz" 2).rank < (positionAt "é\nz" 3).rank ∧
    positionAt "é\nz" 2 ≠ positionAt "é\nz" 3 ∧ offsetAt "é\nz" ⟨2, 1⟩ = some 3 := by
  obtain ⟨_, increasing, distinct, found⟩ := positionAt_identifies "é\nz"
  have second : 2 ∈ boundaries "é\nz" := by decide
  have third : 3 ∈ boundaries "é\nz" := by decide
  refine ⟨⟨second, third⟩, increasing second third (by decide), ?_, ?_⟩
  · exact fun same => absurd (distinct second third same) (by decide)
  · exact (found 3 ⟨2, 1⟩).mpr ⟨third, by decide⟩

/-- Inside of a character a place has the position behind it; behind the text, that of its end. -/
example : [0, 1, 2, 3, 4, 9].map (positionAt "é\nz") =
    [⟨1, 1⟩, ⟨1, 2⟩, ⟨1, 2⟩, ⟨2, 1⟩, ⟨2, 2⟩, ⟨2, 2⟩] := by
  decide

end SandboxPolicy
