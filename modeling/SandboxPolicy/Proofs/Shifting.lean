import SandboxPolicy.Proofs.Outcome
import SandboxPolicy.SExpr.Reader

/-!
Places in a text, and what becomes of them when the text stands elsewhere. The scanner carries
offsets along and never looks at them, so a text behind others has the tokens that it has alone,
each moved by the length of what is in front.
-/

namespace SandboxPolicy

def Span.moved (change : Nat → Nat) (span : Span) : Span := ⟨change span.start, change span.stop⟩

def ReadError.moved (change : Nat → Nat) (error : ReadError) : ReadError :=
  ⟨error.fault, change error.offset⟩

def Token.moved (change : Nat → Nat) : Token → Token
  | .opening offset => .opening (change offset)
  | .closing offset => .closing (change offset)
  | .atom text span => .atom text (span.moved change)
  | .str text span => .str text (span.moved change)
  | .regex text span => .regex text (span.moved change)

namespace SExpr

mutual

def moved (change : Nat → Nat) : SExpr → SExpr
  | .atom text span => .atom text (span.moved change)
  | .str text span => .str text (span.moved change)
  | .regex text span => .regex text (span.moved change)
  | .list items span => .list (movedItems change items) (span.moved change)

def movedItems (change : Nat → Nat) : List SExpr → List SExpr
  | [] => []
  | item :: rest => item.moved change :: movedItems change rest

end

theorem movedItems_eq_map (change : Nat → Nat) (items : List SExpr) :
    movedItems change items = items.map (moved change) := by
  induction items with
  | nil => rfl
  | cons item rest ih => rw [movedItems, ih, List.map_cons]

variable {change back : Nat → Nat}

mutual

theorem moved_back (undone : ∀ offset, back (change offset) = offset) :
    (expr : SExpr) → (expr.moved change).moved back = expr
  | .atom _ _ | .str _ _ | .regex _ _ => by simp [moved, Span.moved, undone]
  | .list items _ => by
      have inside := movedItems_back undone items
      simp [moved, Span.moved, undone, inside]

theorem movedItems_back (undone : ∀ offset, back (change offset) = offset) :
    (items : List SExpr) → movedItems back (movedItems change items) = items
  | [] => rfl
  | item :: rest => by
      rw [movedItems, movedItems, moved_back undone item, movedItems_back undone rest]

end

end SExpr

def Outcome.moved {α β : Type} (change : Nat → Nat) (value : α → β) :
    Except ReadError α → Except ReadError β
  | .ok found => .ok (value found)
  | .error error => .error (error.moved change)

theorem Outcome.moved_eq_ok {α β : Type} {change : Nat → Nat} {value : α → β}
    {outcome : Except ReadError α} {result : β} :
    Outcome.moved change value outcome = .ok result ↔
      ∃ found, outcome = .ok found ∧ value found = result := by
  cases outcome <;> simp [Outcome.moved]

namespace Scan

def moved (change : Nat → Nat) : Scan → Scan
  | .between => .between
  | .lineComment => .lineComment
  | .hash start => .hash (change start)
  | .atom start text => .atom (change start) text
  | .quoted start verbatim text => .quoted (change start) verbatim text
  | .escape start verbatim text => .escape (change start) verbatim text
  | .block start around => .block (change start) around
  | .blockBar start around => .blockBar (change start) around
  | .blockHash start around => .blockHash (change start) around

def movedStep (change : Nat → Nat) (result : Scan × List Token) : Scan × List Token :=
  (result.1.moved change, result.2.map (Token.moved change))

variable (distance : Nat)

theorem begin_moved (offset : Nat) (c : Char) :
    begin (offset + distance) c =
      Outcome.moved (· + distance) (movedStep (· + distance)) (begin offset c) := by
  simp only [begin]
  split_ifs <;> rfl

theorem inAtom_moved (start : Nat) (text : List Char) (offset : Nat) (c : Char) :
    inAtom (start + distance) text (offset + distance) c =
      Outcome.moved (· + distance) (movedStep (· + distance)) (inAtom start text offset c) := by
  simp only [inAtom]
  split_ifs
  · rfl
  · rw [begin_moved]
    cases begin offset c <;> rfl

theorem inBlock_moved (start around : Nat) (c : Char) :
    inBlock (start + distance) around c = (inBlock start around c).moved (· + distance) := by
  simp only [inBlock]
  split_ifs <;> rfl

theorem quotedToken_moved (verbatim : Bool) (text : List Char) (span : Span) :
    (quotedToken verbatim text span).moved (· + distance) =
      quotedToken verbatim text (span.moved (· + distance)) := by
  cases verbatim <;> rfl

theorem step_moved (scan : Scan) (offset : Nat) (c : Char) :
    (scan.moved (· + distance)).step (offset + distance) c =
      Outcome.moved (· + distance) (movedStep (· + distance)) (scan.step offset c) := by
  cases scan with
  | between => exact begin_moved distance offset c
  | lineComment =>
      simp only [moved, step]
      split_ifs <;> rfl
  | hash start =>
      simp only [moved, step]
      split_ifs
      · rfl
      · rfl
      · exact inAtom_moved distance start ['#'] offset c
  | atom start text => exact inAtom_moved distance start text offset c
  | quoted start verbatim text =>
      simp only [moved, step]
      split_ifs
      · simp [Outcome.moved, movedStep, moved, quotedToken_moved, Span.moved,
          Nat.add_right_comm]
      · rfl
      · rfl
  | escape start verbatim text => rfl
  | block start around => simp [moved, step, inBlock_moved, Outcome.moved, movedStep]
  | blockBar start around =>
      simp only [moved, step]
      split_ifs
      · cases around <;> rfl
      · simp [inBlock_moved, Outcome.moved, movedStep]
  | blockHash start around =>
      simp only [moved, step]
      split_ifs
      · rfl
      · simp [inBlock_moved, Outcome.moved, movedStep]

theorem finish_moved (scan : Scan) (offset : Nat) :
    (scan.moved (· + distance)).finish (offset + distance) =
      Outcome.moved (· + distance) (List.map (Token.moved (· + distance)))
        (scan.finish offset) := by
  cases scan <;> rfl

theorem run_moved (scan : Scan) (offset : Nat) (tokens : List Token) (text : List Char) :
    (scan.moved (· + distance)).run (offset + distance)
        (tokens.map (Token.moved (· + distance))) text =
      Outcome.moved (· + distance) (List.map (Token.moved (· + distance)))
        (scan.run offset tokens text) := by
  induction text generalizing scan offset tokens with
  | nil =>
      simp only [run, finish_moved]
      cases scan.finish offset with
      | error error => rfl
      | ok last => simp [Outcome.moved, bind, Except.bind, pure, Except.pure]
  | cons c rest ih =>
      simp only [run, step_moved]
      cases scan.step offset c with
      | error error => rfl
      | ok result =>
          have continued := ih result.1 (offset + c.utf8Size) (result.2.reverse ++ tokens)
          simpa [Outcome.moved, movedStep, bind, Except.bind, Nat.add_right_comm]
            using continued

end Scan

theorem scanTokens_moved (distance : Nat) (text : List Char) :
    Scan.between.run distance [] text =
      Outcome.moved (· + distance) (List.map (Token.moved (· + distance)))
        (scanTokens text) := by
  have scanned := Scan.run_moved distance .between 0 [] text
  rwa [Nat.zero_add] at scanned

end SandboxPolicy
