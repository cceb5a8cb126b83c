import Mathlib
import SandboxPolicy.Proofs.Lexemes

/-!
The places of expressions in their source. The part of a source that an expression is marked with
is that expression: read alone, it gives the expression again, with its places counted from the
beginning of the part.
-/

namespace SandboxPolicy

open String (utf8Len)

def Span.Marks (span : Span) (source part : String) : Prop :=
  ∃ before after, source = before ++ part ++ after ∧ span.start = before.utf8ByteSize ∧
    span.stop = (before ++ part).utf8ByteSize

theorem Span.marks_iff {span : Span} {source : String} {part : List Char} :
    span.Marks source (String.ofList part) ↔ ∃ before after,
      source.toList = before ++ part ++ after ∧ span.start = utf8Len before ∧
        span.stop = utf8Len before + utf8Len part := by
  constructor
  · rintro ⟨before, after, rfl, start, stop⟩
    refine ⟨before.toList, after.toList, by simp, ?_, ?_⟩
    · rw [start, ← String.utf8ByteSize_ofList, String.ofList_toList]
    · rw [stop, String.utf8ByteSize_append, String.utf8ByteSize_ofList, Nat.add_left_inj,
        ← String.utf8ByteSize_ofList, String.ofList_toList]
  · rintro ⟨before, after, split, start, stop⟩
    refine ⟨String.ofList before, String.ofList after, ?_, ?_, ?_⟩
    · apply String.toList_inj.mp
      simp [split]
    · rw [start, String.utf8ByteSize_ofList]
    · rw [stop, String.utf8ByteSize_append, String.utf8ByteSize_ofList,
        String.utf8ByteSize_ofList]

namespace SExpr

variable {source : String} {exprs items : List SExpr} {expr : SExpr}

theorem exists_parse_part {distance : Nat} {part : List Char} {tokens : List Token}
    (scanned : Scan.between.run distance [] part = .ok tokens) (spells : Spells tokens exprs) :
    ∃ alone, parse (String.ofList part) = .ok alone ∧
      alone.map (moved (· + distance)) = exprs := by
  rw [scanTokens_moved] at scanned
  obtain ⟨own, scanned, rfl⟩ := Outcome.moved_eq_ok.mp scanned
  have assembled := assemble_eq_ok.mpr spells
  rw [assemble_moved] at assembled
  obtain ⟨alone, assembled, same⟩ := Outcome.moved_eq_ok.mp assembled
  exact ⟨alone, parse_eq_ok.mpr ⟨own, by rwa [String.toList_ofList], assembled⟩, same⟩

theorem exists_part {text : List Char} {before own after : List Token}
    (laid : Scan.Laid 0 text (before ++ own ++ after)) (alone : Spells own [expr]) :
    ∃ front part rest, text = front ++ part ++ rest ∧ expr.span.start = utf8Len front ∧
      expr.span.stop = utf8Len front + utf8Len part ∧
      Scan.between.run (utf8Len front) [] part = .ok own := by
  obtain ⟨first, more, begun, start⟩ := alone.begins
  obtain ⟨earlier, last, rfl, stop⟩ := alone.ends
  have fromFirst : before ++ (earlier ++ [last]) ++ after = before ++ first :: (more ++ after) := by
    rw [begun]
    simp
  rw [fromFirst] at laid
  obtain ⟨front, later, rfl, place, laid⟩ := laid.drop
  have toLast : first :: (more ++ after) = earlier ++ last :: after := by
    rw [← List.cons_append, ← begun]
    simp
  rw [toLast] at laid
  obtain ⟨part, rest, rfl, place', scanned⟩ := laid.take
  rw [Nat.zero_add] at place place' scanned
  exact ⟨front, part, rest, by simp, start ▸ place, stop ▸ place', scanned⟩

/-- The expression stands where its span says: in a part of the source that is read, alone, as this
expression. The items of a list stand in order between its parentheses. -/
structure Placed (source : String) (expr : SExpr) : Prop where
  nonempty : expr.span.start < expr.span.stop
  within : ∀ items span, expr = .list items span →
    (items.Pairwise fun first second => first.span.Precedes second.span) ∧
      ∀ item ∈ items, span.start < item.span.start ∧ item.span.stop < span.stop
  alone : ∃ part again, expr.span.Marks source part ∧ parse part = .ok [again] ∧
    again = expr.moved (· - expr.span.start) ∧ expr = again.moved (· + expr.span.start)

theorem Spells.placed {before own after : List Token}
    (laid : Scan.Laid 0 source.toList (before ++ own ++ after)) (alone : Spells own [expr]) :
    Placed source expr := by
  obtain ⟨front, part, rest, split, start, stop, scanned⟩ := exists_part laid alone
  obtain ⟨exprs, parsed, lifted⟩ := exists_parse_part scanned alone
  obtain ⟨again, rfl, same⟩ := List.map_eq_singleton_iff.mp lifted
  rw [← start] at same
  refine ⟨?_, ?_, String.ofList part, again, Span.marks_iff.mpr ⟨front, rest, split, start, stop⟩,
    parsed, ?_, same.symm⟩
  · have inside : utf8Len part ≠ 0 := by
      intro empty
      obtain ⟨first, more, rfl, _⟩ := alone.begins
      rw [String.utf8Len_eq_zero.mp empty] at scanned
      cases scanned
    omega
  · rintro items span rfl
    have ordered := laid.ordered
    rw [List.append_assoc, List.pairwise_append, List.pairwise_append] at ordered
    exact alone.within ordered.2.1.1
  · have back := @moved_back (· + expr.span.start) (· - expr.span.start)
      (fun offset => Nat.add_sub_cancel offset _) again
    rw [same] at back
    exact back.symm

/-- Every expression of a source, at any depth, stands where its span says, and those beside each
other stand in order. -/
theorem parse_placed (parsed : parse source = .ok exprs) :
    (exprs.Pairwise fun first second => first.span.Precedes second.span) ∧
      ∀ depth expr, (depth, expr) ∈ preorderItems 0 exprs → Placed source expr := by
  obtain ⟨tokens, scanned, assembled⟩ := parse_eq_ok.mp parsed
  have spells := assemble_eq_ok.mp assembled
  have laid := Scan.run_eq_ok.mp scanned
  refine ⟨spells.ordered laid.ordered, fun depth expr member => ?_⟩
  obtain ⟨before, own, after, rfl, alone⟩ := spells.part member
  exact alone.placed laid

theorem parse_placed_accented :
    parse "; é\n(a (\"é\"))#" = .ok [.list [.atom "a" ⟨6, 7⟩,
        .list [.str "é" ⟨9, 13⟩] ⟨8, 14⟩] ⟨5, 15⟩, .atom "#" ⟨15, 16⟩] ∧
      Placed "; é\n(a (\"é\"))#" (.list [.str "é" ⟨9, 13⟩] ⟨8, 14⟩) := by
  have parsed : parse "; é\n(a (\"é\"))#" = .ok [.list [.atom "a" ⟨6, 7⟩,
      .list [.str "é" ⟨9, 13⟩] ⟨8, 14⟩] ⟨5, 15⟩, .atom "#" ⟨15, 16⟩] := by cbv
  refine ⟨parsed, (parse_placed parsed).2 1 _ ?_⟩
  simp [preorderItems, preorder]

end SExpr

end SandboxPolicy
