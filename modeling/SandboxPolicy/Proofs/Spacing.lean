import Mathlib
import SandboxPolicy.Proofs.Lexemes
import SandboxPolicy.Proofs.PolicyPlaces

/-!
Blanks and comments between tokens. What begins with a blank ends any token that it stands behind,
and leaves no trace but in the places of those in front of which it stands.
-/

namespace SandboxPolicy

open String (utf8Len)

/-! No blank can be in an atom. -/

theorem CharSet.exists_range {ranges : Array (Nat × Nat)} {code steps low high : Nat}
    (found : containsBetween ranges code steps low high = true) :
    ∃ range ∈ ranges.toList, range.1 ≤ code ∧ code ≤ range.2 := by
  fun_induction containsBetween ranges code steps low high with
  | case1 | case2 | case6 => cases found
  | case3 steps low high _ middle first last here _ ih => exact ih found
  | case4 steps low high _ middle first last here _ _ ih => exact ih found
  | case5 steps low high _ middle first last here notBefore notBehind =>
      obtain ⟨bound, same⟩ := Array.getElem?_eq_some_iff.mp here
      exact ⟨(first, last), same ▸ Array.getElem_mem_toList bound, Nat.le_of_not_lt notBefore,
        Nat.le_of_not_lt notBehind⟩

def numerals (begun : Option Nat) : List Char → List Nat
  | [] => begun.toList
  | c :: rest =>
      if c = ' ' || c = '\n' then begun.toList ++ numerals none rest
      else numerals (some (begun.getD 0 * 36 + base36Digit c)) rest

theorem foldl_readNumeral (chars : List Char) (read : Array Nat) (begun : Option Nat) :
    ((chars.foldl readNumeral (read, begun)).2.elim (chars.foldl readNumeral (read, begun)).1
      (chars.foldl readNumeral (read, begun)).1.push).toList =
        read.toList ++ numerals begun chars := by
  induction chars generalizing read begun with
  | nil => cases begun <;> simp [numerals]
  | cons c rest ih =>
      rw [List.foldl_cons, readNumeral, numerals]
      split
      · cases begun with
        | none => exact ih read none
        | some value => simp [ih]
      · exact ih read _

def avoids (codes : List Nat) (table : List Char) : Bool :=
  (rangesFrom 0 (numerals none table)).all fun range =>
    codes.all fun code => code < range.1 || range.2 < code

theorem tableNumbers_ofList (table : List Char) :
    tableNumbers (String.ofList table) = numerals none table := by
  rw [tableNumbers, String.toList_ofList]
  exact foldl_readNumeral table #[] none

theorem not_contains_ofTable {set : CharSet} {codes : List Nat} {table : List Char} {c : Char}
    (same : set = .ofTable (String.ofList table)) (avoided : avoids codes table = true)
    (listed : c.toNat ∈ codes) : set.contains c = false := by
  rw [Bool.eq_false_iff]
  intro found
  obtain ⟨range, member, begins, ends⟩ := CharSet.exists_range found
  rw [same, CharSet.ofTable, tableNumbers_ofList] at member
  have each := List.all_eq_true.mp (List.all_eq_true.mp avoided range member) c.toNat listed
  simp only [Bool.or_eq_true, decide_eq_true_eq] at each
  omega

def wideBlanks : List Nat :=
  [0x85, 0xa0, 0x1680, 0x2000, 0x2001, 0x2002, 0x2003, 0x2004, 0x2005, 0x2006, 0x2007, 0x2008,
    0x2009, 0x200a, 0x2028, 0x2029, 0x202f, 0x205f, 0x3000]

theorem isBlank_cases {c : Char} (blank : isBlank c = true) :
    c.toNat ∈ [9, 10, 11, 12, 13, 32] ∨ c.toNat ∈ wideBlanks := by
  simp only [isBlank, Bool.or_eq_true, Bool.and_eq_true, decide_eq_true_eq, beq_iff_eq] at blank
  simp only [wideBlanks, List.mem_cons, List.not_mem_nil, or_false]
  omega

set_option maxRecDepth 100000 in
theorem not_alphabetic_of_wideBlank {c : Char} (listed : c.toNat ∈ wideBlanks) :
    Repertoire.alphabetic.contains c = false :=
  not_contains_ofTable rfl (by decide +kernel) listed

set_option maxRecDepth 100000 in
theorem not_numeric_of_wideBlank {c : Char} (listed : c.toNat ∈ wideBlanks) :
    Repertoire.numeric.contains c = false :=
  not_contains_ofTable rfl (by decide +kernel) listed

theorem isBlank_ends {c : Char} (blank : isBlank c = true) :
    isAtomChar c = false ∧ c ≠ '"' ∧ c ≠ '|' := by
  have other (d : Char) (solid : isBlank d = false) : c ≠ d := by
    rintro rfl
    rw [blank] at solid
    cases solid
  refine ⟨?_, other '"' (by decide), other '|' (by decide)⟩
  rcases isBlank_cases blank with narrow | wide
  · have each : ∀ code ∈ [9, 10, 11, 12, 13, 32], isAtomChar (Char.ofNat code) = false := by decide
    rw [← Char.ofNat_toNat c]
    exact each _ narrow
  · have large : isAscii c = false := by
      have bound : ∀ code ∈ wideBlanks, 128 ≤ code := by decide
      simpa [isAscii] using bound _ wide
    have apart (sign : Char) (ascii : isAscii sign = true) : (c == sign) = false := by
      rw [beq_eq_false_iff_ne]
      rintro rfl
      rw [large] at ascii
      cases ascii
    simp (disch := decide) only [isAtomChar, isAlphanumeric, isAlphabetic, isNumeric, large,
      not_alphabetic_of_wideBlank wide, not_numeric_of_wideBlank wide, List.contains_cons,
      List.contains_nil, apart, Bool.or_false, Bool.false_eq_true, if_false]

/-! Gaps. -/

/-- The inside of as many block comments as there are open, up to the end of the outermost. It is
read from the left, and no character belongs to two marks. -/
inductive Nested : Nat → List Char → Prop
  | done : Nested 0 []
  | opens {depth : Nat} {rest : List Char} :
      Nested (depth + 2) rest → Nested (depth + 1) ('#' :: '|' :: rest)
  | closes {depth : Nat} {rest : List Char} :
      Nested depth rest → Nested (depth + 1) ('|' :: '#' :: rest)
  | other {depth : Nat} {c d : Char} {rest : List Char} (noOpening : ¬(c = '#' ∧ d = '|'))
      (noClosing : ¬(c = '|' ∧ d = '#')) :
      Nested (depth + 1) (d :: rest) → Nested (depth + 1) (c :: d :: rest)

inductive Gap : List Char → Prop
  | nil : Gap []
  | blank {c : Char} {rest : List Char} (blank : isBlank c = true) : Gap rest → Gap (c :: rest)
  | line {comment rest : List Char} (within : '\n' ∉ comment) :
      Gap rest → Gap (';' :: comment ++ '\n' :: rest)
  | block {comment rest : List Char} (nested : Nested 1 comment) :
      Gap rest → Gap ('#' :: '|' :: comment ++ rest)

structure Spacing (gap : List Char) : Prop where
  parts : Gap gap
  begins : ∃ c rest, gap = c :: rest ∧ isBlank c = true

namespace Scan

variable {scan : Scan} {offset start depth around : Nat} {c d : Char}
  {text gap front rest : List Char} {token : Token} {tokens before after : List Token}

def inside (start : Nat) : Nat → Scan
  | 0 => .between
  | around + 1 => .block start around

theorem inBlock_run (noOpening : ¬(c = '#' ∧ d = '|')) (noClosing : ¬(c = '|' ∧ d = '#'))
    (rest : List Char) :
    (inBlock start around c).run offset [] (d :: rest) =
      (Scan.block start around).run offset [] (d :: rest) := by
  have same : (inBlock start around c).step offset d = (Scan.block start around).step offset d := by
    rw [inBlock]
    split_ifs with isBar isHash
    · have noHash : d ≠ '#' := fun isHash => noClosing ⟨isBar, isHash⟩
      simp [step, noHash]
    · have noBar : d ≠ '|' := fun isBar => noOpening ⟨isHash, isBar⟩
      simp [step, noBar]
    · rfl
  rw [run, run, same]

theorem nested_passes (nested : Nested depth text) (start offset : Nat) :
    (inside start depth).Passes offset text between := by
  induction nested generalizing offset with
  | done => exact .refl _ _
  | @opens depth rest _ ih =>
      have mark : (inside start (depth + 1)).Passes offset ['#', '|'] (inside start (depth + 2)) :=
        (passes_one rfl).append (passes_one rfl)
      exact mark.append (ih _)
  | @closes depth rest _ ih =>
      have mark : (inside start (depth + 1)).Passes offset ['|', '#'] (inside start depth) := by
        cases depth <;> exact (passes_one rfl).append (passes_one rfl)
      exact mark.append (ih _)
  | @other depth c d rest noOpening noClosing _ ih =>
      have first : (inside start (depth + 1)).Passes offset [c] (inBlock start depth c) :=
        passes_one rfl
      refine first.append fun more => ?_
      rw [List.cons_append, inBlock_run noOpening noClosing]
      exact ih _ more

theorem lineComment_passes (within : '\n' ∉ text) (offset : Nat) :
    lineComment.Passes offset text lineComment := by
  induction text generalizing offset with
  | nil => exact .refl _ _
  | cons c text ih =>
      rw [List.mem_cons, not_or] at within
      have stepped : lineComment.step offset c = .ok (lineComment, []) := by
        rw [step, if_neg (Ne.symm within.1)]
      exact (passes_one stepped).append (ih within.2 _)

theorem gap_passes (gap : Gap text) (offset : Nat) : between.Passes offset text between := by
  induction gap generalizing offset with
  | nil => exact .refl _ _
  | blank blank _ ih =>
      have stepped : between.step offset _ = .ok (between, []) := if_pos blank
      exact (passes_one stepped).append (ih _)
  | @line comment rest within _ ih =>
      have mark : between.Passes offset [';'] lineComment := passes_one rfl
      have ended (offset : Nat) : lineComment.Passes offset ['\n'] between := passes_one rfl
      have whole := (mark.append ((lineComment_passes within _).append (ended _))).append (ih _)
      simpa using whole
  | @block comment rest nested _ ih =>
      have mark : between.Passes offset ['#', '|'] (inside offset 1) :=
        (passes_one rfl).append (passes_one rfl)
      simpa using (mark.append (nested_passes nested offset _)).append (ih _)

/-! A text that is cut in two. -/

/-- In front of the cut the text has some tokens, whatever blank may be behind it, and behind the
cut it has others. -/
structure Divides (offset : Nat) (front rest : List Char) (before after : List Token) : Prop where
  ahead : ∀ c more, isBlank c = true → between.run offset [] (front ++ c :: more) =
    (between.run (offset + utf8Len front) [] (c :: more)).map (before ++ ·)
  behind : between.run (offset + utf8Len front) [] rest = .ok after

theorem stopsAt_blank (stops : token.StopsAt (front ++ rest)) (blank : isBlank c = true)
    (more : List Char) : token.StopsAt (front ++ c :: more) := by
  cases front with
  | cons d front => cases token <;> exact stops
  | nil =>
      obtain ⟨notAtom, noQuote, noBar⟩ := isBlank_ends blank
      cases token with
      | atom text span =>
          intro d same
          obtain rfl : c = d := Option.some.inj same
          exact ⟨notAtom, fun _ => ⟨noQuote, noBar⟩⟩
      | opening | closing | str | regex => trivial

theorem Divides.cons {part : List Char} {earlier : Token}
    (silent : between.Passes offset gap between) (reads : Reads (offset + utf8Len gap) part earlier)
    (stops : earlier.StopsAt (front ++ rest))
    (divides : Divides (offset + utf8Len gap + utf8Len part) front rest before after) :
    Divides offset (gap ++ part ++ front) rest (earlier :: before) after where
  ahead := by
    intro c more blank
    have place : offset + utf8Len (gap ++ part ++ front) =
        offset + utf8Len gap + utf8Len part + utf8Len front := by
      simp [Nat.add_assoc]
    rw [List.append_assoc, List.append_assoc, silent,
      reads.onward _ (stopsAt_blank stops blank more), divides.ahead c more blank, place]
    cases between.run (offset + utf8Len gap + utf8Len part + utf8Len front) [] (c :: more) <;> rfl
  behind := by
    have later := divides.behind
    simpa [Nat.add_assoc] using later

theorem Laid.divides (laid : Laid offset text (before ++ token :: after)) :
    ∃ front part rest, text = front ++ (part ++ rest) ∧
      token.span = ⟨offset + utf8Len front, offset + utf8Len (front ++ part)⟩ ∧
      Divides offset front (part ++ rest) before (token :: after) ∧
      Divides offset (front ++ part) rest (before ++ [token]) after := by
  induction before generalizing offset text with
  | nil =>
      cases laid with
      | @token _ gap part rest _ _ silent reads stops later =>
          have none : Divides (offset + utf8Len gap + utf8Len part) [] rest [] after := by
            refine ⟨fun c more _ => ?_, run_eq_ok.mpr later⟩
            rw [List.nil_append, String.utf8Len_nil, Nat.add_zero]
            cases between.run (offset + utf8Len gap + utf8Len part) [] (c :: more) <;> rfl
          refine ⟨gap, part, rest, List.append_assoc _ _ _, ?_, ⟨fun c more _ => ?_, ?_⟩, ?_⟩
          · rw [reads.span, String.utf8Len_append, Nat.add_assoc]
          · rw [silent]
            cases between.run (offset + utf8Len gap) [] (c :: more) <;> rfl
          · exact run_eq_ok.mpr (Laid.token (Passes.refl between _) reads stops later)
          · have stops' : token.StopsAt ([] ++ rest) := stops
            simpa using none.cons silent reads stops'
  | cons earlier before ih =>
      cases laid with
      | @token _ gap first _ _ _ silent reads stops later =>
          obtain ⟨front, part, rest, rfl, span, ahead, behind⟩ := ih later
          rw [← List.append_assoc] at stops
          refine ⟨gap ++ first ++ front, part, rest, by simp, ?_,
            ahead.cons silent reads (by simpa using stops), ?_⟩
          · rw [span]
            simp [Nat.add_assoc]
          · simpa using behind.cons silent reads stops

theorem Divides.spaced (divides : Divides offset front rest before after) (spacing : Spacing gap) :
    between.run offset [] (front ++ gap ++ rest) =
      .ok (before ++ after.map (Token.moved (· + utf8Len gap))) := by
  have passes := gap_passes spacing.parts (offset + utf8Len front) rest
  have moved := run_moved (utf8Len gap) between (offset + utf8Len front) [] rest
  obtain ⟨c, more, rfl, blank⟩ := spacing.begins
  rw [divides.behind] at moved
  rw [List.append_assoc, List.cons_append, divides.ahead c _ blank, ← List.cons_append, passes]
  exact congrArg (Except.map (before ++ ·)) moved

end Scan

theorem Token.bare_moved (change : Nat → Nat) (token : Token) :
    (token.moved change).bare = token.bare := by
  cases token <;> rfl

namespace SExpr

variable {exprs : List SExpr} {tokens again : List Token}

theorem assemble_of_itemTokens (spelled : again.map Token.bare = itemTokens exprs) :
    ∃ others, assemble [] [] again = .ok others ∧ others.map bare = exprs.map bare := by
  rw [← List.append_nil (itemTokens exprs)] at spelled
  obtain ⟨others, later, alike, none, whole⟩ := assemble_itemTokens exprs again spelled
  obtain rfl : later = [] := List.map_eq_nil_iff.mp none
  rw [readItemsAs_eq_map, readItemsAs_eq_map] at alike
  refine ⟨others, ?_, alike⟩
  rw [whole, List.append_nil, assemble, List.reverse_reverse]

theorem assemble_bare (assembled : assemble [] [] tokens = .ok exprs)
    (same : again.map Token.bare = tokens.map Token.bare) :
    ∃ others, assemble [] [] again = .ok others ∧ others.map bare = exprs.map bare :=
  assemble_of_itemTokens (same.trans (itemTokens_of_assembled assembled).symm)

theorem scan_spaced {text gap : List Char} {token : Token} {offset : Nat}
    (scanned : scanTokens text = .ok tokens) (member : token ∈ tokens)
    (edge : offset = token.span.start ∨ offset = token.span.stop) (spacing : Spacing gap) :
    ∃ front rest, text = front ++ rest ∧ utf8Len front = offset ∧
      ∃ again, scanTokens (front ++ gap ++ rest) = .ok again ∧
        again.map Token.bare = tokens.map Token.bare := by
  have laid := Scan.run_eq_ok.mp scanned
  obtain ⟨before, after, rfl⟩ := List.append_of_mem member
  have alike (before after : List Token) : (before ++ after.map (Token.moved (· + utf8Len gap))).map
      Token.bare = (before ++ after).map Token.bare := by
    simp [Function.comp_def, Token.bare_moved]
  obtain ⟨front, part, rest, rfl, span, ahead, behind⟩ := laid.divides
  rw [Nat.zero_add, Nat.zero_add] at span
  rw [span] at edge
  rcases edge with rfl | rfl
  · exact ⟨front, part ++ rest, rfl, rfl, _, ahead.spaced spacing, alike _ _⟩
  · refine ⟨front ++ part, rest, (List.append_assoc _ _ _).symm, rfl, _,
      behind.spaced spacing, ?_⟩
    rw [alike, List.append_assoc, List.singleton_append]

/-- A gap in front of a token or behind it changes neither the expressions of a source nor the
policy, nor the complaint about it, but for their places. -/
theorem parse_spaced {source gap : String} {tokens : List Token} {token : Token} {offset : Nat}
    (parsed : parse source = .ok exprs) (scanned : scanTokens source.toList = .ok tokens)
    (member : token ∈ tokens) (edge : offset = token.span.start ∨ offset = token.span.stop)
    (spacing : Spacing gap.toList) :
    ∃ front rest, source = front ++ rest ∧ front.utf8ByteSize = offset ∧
      ∃ again, parse (front ++ gap ++ rest) = .ok again ∧ again.map bare = exprs.map bare ∧
        ∀ parameters,
          Outcome.placeless ((Policy.parse (front ++ gap ++ rest) parameters).map Policy.bare) =
            Outcome.placeless ((Policy.parse source parameters).map Policy.bare) := by
  obtain ⟨found, scanned', assembled⟩ := parse_eq_ok.mp parsed
  obtain rfl : tokens = found := Except.ok.inj (scanned.symm.trans scanned')
  obtain ⟨front, rest, split, place, moved, spaced, same⟩ :=
    scan_spaced scanned member edge spacing
  obtain ⟨again, assembled', alike⟩ := assemble_bare assembled same
  have parsed' : parse (String.ofList front ++ gap ++ String.ofList rest) = .ok again := by
    refine parse_eq_ok.mpr ⟨moved, ?_, assembled'⟩
    simpa using spaced
  refine ⟨String.ofList front, String.ofList rest, ?_, ?_, again, parsed', alike, ?_⟩
  · apply String.toList_inj.mp
    simp [split]
  · rw [String.utf8ByteSize_ofList, place]
  · exact fun parameters => Policy.parse_bare parsed' parsed alike parameters

/-- The number sign behind the letter's bar closes a comment and opens none with the bar that
follows it. -/
theorem nested_overlapping :
    Nested 1 ['#', '|', 'x', '|', '#', '|', '|', '#'] :=
  .opens (.other (by decide) (by decide) (.closes (.other (by decide) (by decide)
    (.closes .done))))

theorem parse_spaced_nested :
    parse "(version 1)" = .ok [.list [.atom "version" ⟨1, 8⟩, .atom "1" ⟨9, 10⟩] ⟨0, 11⟩] ∧
    scanTokens "(version 1)".toList =
      .ok [.opening 0, .atom "version" ⟨1, 8⟩, .atom "1" ⟨9, 10⟩, .closing 10] ∧
    Spacing " #|#|x|#||#".toList ∧
    ∃ front rest, "(version 1)" = front ++ rest ∧ front.utf8ByteSize = 10 ∧
      ∃ again, parse (front ++ " #|#|x|#||#" ++ rest) = .ok again ∧
        again.map bare = [.list [.atom "version" .zero, .atom "1" .zero] .zero] := by
  have parsed : parse "(version 1)" =
      .ok [.list [.atom "version" ⟨1, 8⟩, .atom "1" ⟨9, 10⟩] ⟨0, 11⟩] := by cbv
  have scanned : scanTokens "(version 1)".toList =
      .ok [.opening 0, .atom "version" ⟨1, 8⟩, .atom "1" ⟨9, 10⟩, .closing 10] := by cbv
  have spacing : Spacing " #|#|x|#||#".toList :=
    ⟨.blank (by decide) (Gap.block nested_overlapping .nil), ' ', _, rfl, by decide⟩
  obtain ⟨front, rest, split, place, again, parsed', same, _⟩ :=
    @parse_spaced _ "(version 1)" " #|#|x|#||#" _ (.atom "1" ⟨9, 10⟩) 10 parsed scanned (by simp)
      (.inr rfl) spacing
  exact ⟨parsed, scanned, spacing, front, rest, split, place, again, parsed', same⟩

end SExpr

end SandboxPolicy
