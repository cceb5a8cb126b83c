import SandboxPolicy.Proofs.Shifting

/-!
Which expressions some tokens spell. What is put together from tokens is what they spell, each list
from its opening parenthesis to the closing one, and each expression from tokens of its own.
-/

namespace SandboxPolicy

def Token.span : Token → Span
  | .opening offset | .closing offset => ⟨offset, offset + 1⟩
  | .atom _ span | .str _ span | .regex _ span => span

def Span.Precedes (first second : Span) : Prop := first.stop ≤ second.start

namespace SExpr

inductive Spells : List Token → List SExpr → Prop
  | nil : Spells [] []
  | atom {text : String} {span : Span} {tokens : List Token} {exprs : List SExpr} :
      Spells tokens exprs → Spells (.atom text span :: tokens) (.atom text span :: exprs)
  | str {text : String} {span : Span} {tokens : List Token} {exprs : List SExpr} :
      Spells tokens exprs → Spells (.str text span :: tokens) (.str text span :: exprs)
  | regex {text : String} {span : Span} {tokens : List Token} {exprs : List SExpr} :
      Spells tokens exprs → Spells (.regex text span :: tokens) (.regex text span :: exprs)
  | list {start offset : Nat} {inner tokens : List Token} {items exprs : List SExpr} :
      Spells inner items → Spells tokens exprs →
      Spells (.opening start :: inner ++ .closing offset :: tokens)
        (.list items ⟨start, offset + 1⟩ :: exprs)

variable {tokens more inner found : List Token} {exprs others items : List SExpr} {expr : SExpr}
  {stack : List (Nat × List SExpr)}

theorem Spells.append (spells : Spells tokens exprs) (spells' : Spells more others) :
    Spells (tokens ++ more) (exprs ++ others) := by
  induction spells with
  | nil => exact spells'
  | atom _ ih => exact .atom ih
  | str _ ih => exact .str ih
  | regex _ ih => exact .regex ih
  | @list start offset inner tokens items exprs inside _ _ ih =>
      have whole : Spells (.opening start :: inner ++ .closing offset :: (tokens ++ more))
          (.list items ⟨start, offset + 1⟩ :: (exprs ++ others)) := .list inside ih
      simpa using whole

theorem Spells.singleList (spells : Spells inner items) (start offset : Nat) :
    Spells (.opening start :: inner ++ [.closing offset]) [.list items ⟨start, offset + 1⟩] :=
  .list spells .nil

theorem Spells.uncons (spells : Spells tokens (expr :: exprs)) :
    ∃ own later, tokens = own ++ later ∧ Spells own [expr] ∧ Spells later exprs := by
  cases spells with
  | atom rest => exact ⟨[_], _, rfl, .atom .nil, rest⟩
  | str rest => exact ⟨[_], _, rfl, .str .nil, rest⟩
  | regex rest => exact ⟨[_], _, rfl, .regex .nil, rest⟩
  | list inside rest => exact ⟨_, _, by simp, inside.singleList _ _, rest⟩

theorem Spells.of_mem (spells : Spells tokens exprs) (member : expr ∈ exprs) :
    ∃ before own after, tokens = before ++ own ++ after ∧ Spells own [expr] := by
  induction exprs generalizing tokens with
  | nil => cases member
  | cons first rest ih =>
      obtain ⟨own, later, rfl, alone, others⟩ := spells.uncons
      rcases List.mem_cons.mp member with rfl | behind
      · exact ⟨[], own, later, rfl, alone⟩
      · obtain ⟨before, found, after, rfl, alone'⟩ := ih others behind
        exact ⟨own ++ before, found, after, by simp, alone'⟩

theorem Spells.moved (spells : Spells tokens exprs) (distance : Nat) :
    Spells (tokens.map (Token.moved (· + distance)))
      (exprs.map (SExpr.moved (· + distance))) := by
  induction spells with
  | nil => exact .nil
  | atom _ ih => exact .atom ih
  | str _ ih => exact .str ih
  | regex _ ih => exact .regex ih
  | @list start offset inner tokens items exprs _ _ inside rest =>
      have whole := (inside.singleList (start + distance) (offset + distance)).append rest
      simpa [Token.moved, SExpr.moved, Span.moved, movedItems_eq_map, Nat.add_right_comm]
        using whole

/-! Putting tokens together. -/

theorem Spells.assemble (spells : Spells tokens exprs) (stack : List (Nat × List SExpr))
    (items : List SExpr) (later : List Token) :
    SExpr.assemble stack items (tokens ++ later) =
      SExpr.assemble stack (exprs.reverse ++ items) later := by
  induction spells generalizing stack items later with
  | nil => rfl
  | atom _ ih | str _ ih | regex _ ih => simp [SExpr.assemble, ih]
  | list _ _ inside rest => simp [SExpr.assemble, inside, rest]

/-- The tokens so far spell the items of the open lists, and opened these lists. -/
def Opened : List (Nat × List SExpr) → List SExpr → List Token → Prop
  | [], items, seen => Spells seen items.reverse
  | (start, before) :: stack, items, seen => ∃ outer inner,
      seen = outer ++ .opening start :: inner ∧ Opened stack before outer ∧
        Spells inner items.reverse

theorem Opened.add {seen own : List Token} (opened : Opened stack items seen)
    (spells : Spells own [expr]) : Opened stack (expr :: items) (seen ++ own) := by
  cases stack with
  | nil =>
      rw [Opened, List.reverse_cons]
      exact Spells.append opened spells
  | cons list stack =>
      obtain ⟨outer, inner, rfl, around, inside⟩ := opened
      refine ⟨outer, inner ++ own, by simp, around, ?_⟩
      rw [List.reverse_cons]
      exact inside.append spells

theorem Opened.assemble {seen : List Token} (opened : Opened stack items seen)
    (assembled : SExpr.assemble stack items found = .ok exprs) : Spells (seen ++ found) exprs := by
  -- Each token that is put in place is seen, and at the end all lists are closed.
  fun_induction SExpr.assemble stack items found generalizing seen with
  | case1 items =>
      cases assembled
      rw [List.append_nil]
      exact opened
  | case2 | case4 => cases assembled
  | case3 stack items start rest ih =>
      have inside : Opened ((start, items) :: stack) [] (seen ++ [.opening start]) :=
        ⟨seen, [], rfl, opened, .nil⟩
      simpa using ih inside assembled
  | case5 start before stack items offset rest ih =>
      obtain ⟨outer, inner, rfl, around, inside⟩ := opened
      simpa using ih (around.add (inside.singleList start offset)) assembled
  | case6 stack items text span rest ih =>
      simpa using ih (opened.add (.atom .nil)) assembled
  | case7 stack items text span rest ih =>
      simpa using ih (opened.add (.str .nil)) assembled
  | case8 stack items text span rest ih =>
      simpa using ih (opened.add (.regex .nil)) assembled

theorem assemble_eq_ok : assemble [] [] tokens = .ok exprs ↔ Spells tokens exprs := by
  constructor
  · intro assembled
    have none : Opened [] [] [] := Spells.nil
    exact none.assemble assembled
  · intro spells
    have assembled := spells.assemble [] [] []
    simpa [assemble] using assembled

theorem assemble_eq_error {change : Nat → Nat} {stack' : List (Nat × List SExpr)}
    {error : ReadError} (items' : List SExpr)
    (starts : stack'.map Prod.fst = stack.map (change ∘ Prod.fst))
    (failed : assemble stack items found = .error error) :
    assemble stack' items' (found.map (Token.moved change)) = .error (error.moved change) := by
  fun_induction assemble stack items found generalizing stack' items' with
  | case1 items => cases failed
  | case2 start before stack items =>
      cases failed
      obtain ⟨⟨_, before'⟩, stack', rfl, rfl, _⟩ := List.map_eq_cons_iff.mp starts
      rfl
  | case3 stack items start rest ih =>
      rw [List.map_cons, Token.moved, assemble]
      exact ih [] (by simp [starts]) failed
  | case4 items offset rest =>
      cases failed
      obtain rfl : stack' = [] := List.map_eq_nil_iff.mp starts
      rfl
  | case5 start before stack items offset rest ih =>
      obtain ⟨⟨_, before'⟩, stack', rfl, rfl, outer⟩ := List.map_eq_cons_iff.mp starts
      rw [List.map_cons, Token.moved, assemble]
      exact ih _ outer failed
  | case6 stack items text span rest ih | case7 stack items text span rest ih
  | case8 stack items text span rest ih =>
      rw [List.map_cons, Token.moved, assemble]
      exact ih _ starts failed

theorem assemble_moved (distance : Nat) (tokens : List Token) :
    assemble [] [] (tokens.map (Token.moved (· + distance))) =
      Outcome.moved (· + distance) (List.map (moved (· + distance))) (assemble [] [] tokens) := by
  cases assembled : assemble [] [] tokens with
  | error error => exact assemble_eq_error [] rfl assembled
  | ok exprs => exact assemble_eq_ok.mpr ((assemble_eq_ok.mp assembled).moved distance)

/-! Sources. -/

theorem parse_eq_ofChars {source : String} :
    parse source = .ok exprs ↔ ofChars source.toList = .ok exprs := by
  rw [parse]
  split
  next found read => simp [read]
  next error failed => simp [failed]

theorem parse_eq_ok {source : String} : parse source = .ok exprs ↔
    ∃ tokens, scanTokens source.toList = .ok tokens ∧ assemble [] [] tokens = .ok exprs := by
  rw [← Outcome.bind_eq_ok]
  exact parse_eq_ofChars

theorem parse_eq_error {source : String} {error : SyntaxError} : parse source = .error error ↔
    ∃ found, ofChars source.toList = .error found ∧
      ⟨found.fault, found.offset, positionAt source found.offset⟩ = error := by
  rw [parse]
  split
  next exprs read => simp [read]
  next found failed => simp [failed]

/-! The tokens of one expression. -/

theorem Spells.begins (spells : Spells tokens [expr]) :
    ∃ first more, tokens = first :: more ∧ first.span.start = expr.span.start := by
  cases spells with
  | atom _ | str _ | regex _ | list _ _ => exact ⟨_, _, rfl, rfl⟩

theorem Spells.ends (spells : Spells tokens [expr]) :
    ∃ more last, tokens = more ++ [last] ∧ last.span.stop = expr.span.stop := by
  cases spells with
  | atom rest | str rest | regex rest =>
      cases rest
      exact ⟨[], _, rfl, rfl⟩
  | list inside rest =>
      cases rest
      exact ⟨_, _, rfl, rfl⟩

theorem Spells.ordered (spells : Spells tokens exprs)
    (ordered : tokens.Pairwise fun first second => first.span.Precedes second.span) :
    exprs.Pairwise fun first second => first.span.Precedes second.span := by
  induction exprs generalizing tokens with
  | nil => exact .nil
  | cons expr exprs ih =>
      obtain ⟨own, later, rfl, alone, rest⟩ := spells.uncons
      obtain ⟨_, later_ordered, across⟩ := List.pairwise_append.mp ordered
      refine .cons (fun other member => ?_) (ih rest later_ordered)
      obtain ⟨more, last, rfl, stop⟩ := alone.ends
      obtain ⟨before, found, after, rfl, alone'⟩ := rest.of_mem member
      obtain ⟨first, others, rfl, start⟩ := alone'.begins
      have apart : last.span.Precedes first.span := across last (by simp) first (by simp)
      rw [Span.Precedes] at apart ⊢
      rwa [← stop, ← start]

theorem Spells.within {span : Span} (spells : Spells tokens [.list items span])
    (ordered : tokens.Pairwise fun first second => first.span.Precedes second.span) :
    (items.Pairwise fun first second => first.span.Precedes second.span) ∧
      ∀ item ∈ items, span.start < item.span.start ∧ item.span.stop < span.stop := by
  cases spells with
  | @list start offset inner tokens _ _ inside rest =>
      simp only [List.cons_append, List.pairwise_cons, List.pairwise_append] at ordered
      obtain ⟨opened, innerOrdered, _, closed⟩ := ordered
      refine ⟨inside.ordered innerOrdered, fun item member => ?_⟩
      obtain ⟨before, own, after, rfl, alone⟩ := inside.of_mem member
      constructor
      · obtain ⟨first, more, rfl, begins⟩ := alone.begins
        have behind : start + 1 ≤ first.span.start := opened first (by simp)
        dsimp only
        omega
      · obtain ⟨more, last, rfl, ends⟩ := alone.ends
        have ahead : last.span.stop ≤ offset := closed last (by simp) (.closing offset) (by simp)
        dsimp only
        omega

theorem Spells.part (spells : Spells tokens exprs) {depth level : Nat}
    (member : (level, expr) ∈ preorderItems depth exprs) :
    ∃ before own after, tokens = before ++ own ++ after ∧ Spells own [expr] := by
  have front {first : SExpr} (own later : List Token) (alone : Spells own [first]) :
      ∃ before found after, own ++ later = before ++ found ++ after ∧ Spells found [first] :=
    ⟨[], own, later, rfl, alone⟩
  have behind (own : List Token) {later : List Token}
      (found : ∃ before found after, later = before ++ found ++ after ∧ Spells found [expr]) :
      ∃ before found after, own ++ later = before ++ found ++ after ∧ Spells found [expr] := by
    obtain ⟨before, found, after, rfl, alone⟩ := found
    exact ⟨own ++ before, found, after, by simp, alone⟩
  induction spells generalizing depth with
  | nil => cases member
  | atom _ ih | str _ ih | regex _ ih =>
      simp only [preorderItems, preorder, List.singleton_append, List.mem_cons,
        Prod.mk.injEq] at member
      rcases member with ⟨rfl, rfl⟩ | later
      · exact front [_] _ (by constructor; exact .nil)
      · exact behind [_] (ih later)
  | @list start offset inner tokens items exprs inside _ within ih =>
      simp only [preorderItems, preorder, List.cons_append, List.mem_cons, List.mem_append,
        Prod.mk.injEq] at member
      rcases member with ⟨rfl, rfl⟩ | deeper | later
      · exact ⟨[], _, tokens, by simp, inside.singleList start offset⟩
      · obtain ⟨before, own, after, rfl, alone⟩ := within deeper
        exact ⟨.opening start :: before, own, after ++ .closing offset :: tokens, by simp, alone⟩
      · obtain ⟨before, own, after, rfl, alone⟩ := ih later
        exact ⟨.opening start :: inner ++ .closing offset :: before, own, after, by simp, alone⟩

end SExpr

end SandboxPolicy
