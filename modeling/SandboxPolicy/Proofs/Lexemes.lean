import Mathlib.Data.String.Basic
import SandboxPolicy.Proofs.Scanning
import SandboxPolicy.Proofs.Spelling

/-!
How a text is divided into tokens. Each token has a part of the text to itself, with gaps between
the parts, and what a part is read as depends on nothing in front of it, and on no more behind it
than the character that an atom stops at.
-/

namespace SandboxPolicy

open String (utf8Len)

def Token.StopsAt : Token → List Char → Prop
  | .atom text _, rest =>
      ∀ c ∈ rest.head?, isAtomChar c = false ∧ (text = "#" → c ≠ '"' ∧ c ≠ '|')
  | _, _ => True

variable {token : Token} {tokens : List Token} {offset start : Nat}
  {text part more rest gap front todo : List Char}

theorem Token.stopsAt_nil (token : Token) : token.StopsAt [] := by
  cases token <;> simp [StopsAt]

theorem Token.StopsAt.shorter (stops : token.StopsAt (part ++ rest)) : token.StopsAt part := by
  cases part with
  | nil => exact token.stopsAt_nil
  | cons c part => cases token <;> exact stops

namespace Scan

variable {scan middle next : Scan} {c : Char} {seen : List Char} {completed : List Token}

def Passes (scan : Scan) (offset : Nat) (text : List Char) (next : Scan) : Prop :=
  ∀ rest, scan.run offset [] (text ++ rest) = next.run (offset + utf8Len text) [] rest

theorem Passes.refl (scan : Scan) (offset : Nat) : scan.Passes offset [] scan := fun _ => rfl

theorem Passes.append (first : scan.Passes offset text middle)
    (second : middle.Passes (offset + utf8Len text) more next) :
    scan.Passes offset (text ++ more) next := by
  intro rest
  rw [List.append_assoc, first, second, String.utf8Len_append, Nat.add_assoc]

theorem passes_one (stepped : scan.step offset c = .ok (next, [])) :
    scan.Passes offset [c] next := by
  intro rest
  rw [List.singleton_append, run_cons stepped, String.utf8Len_cons, String.utf8Len_nil,
    Nat.zero_add]
  cases next.run (offset + c.utf8Size) [] rest <;> rfl

theorem Passes.concat (passes : scan.Passes offset text middle)
    (stepped : middle.step (offset + utf8Len text) c = .ok (next, [])) :
    scan.Passes offset (text ++ [c]) next :=
  passes.append (passes_one stepped)

/-! One token. -/

/-- The part is read as the token, in front of any text at which the token stops. -/
structure Reads (offset : Nat) (part : List Char) (token : Token) : Prop where
  span : token.span = ⟨offset, offset + utf8Len part⟩
  nonempty : part ≠ []
  onward : ∀ rest, token.StopsAt rest → between.run offset [] (part ++ rest) =
    (between.run (offset + utf8Len part) [] rest).map (token :: ·)

def EndsAs (scan : Scan) (offset : Nat) (token : Token) : Prop :=
  ∀ rest, token.StopsAt rest →
    scan.run offset [] rest = (between.run offset [] rest).map (token :: ·)

theorem atom_endsAs (start offset : Nat) (seen : List Char) :
    (Scan.atom start seen).EndsAs offset (.atom (String.ofList seen.reverse) ⟨start, offset⟩) := by
  intro rest stops
  cases rest with
  | nil => rfl
  | cons c rest => exact run_atom_end (stops c rfl).1 rest

theorem hash_endsAs (start offset : Nat) :
    (Scan.hash start).EndsAs offset (.atom "#" ⟨start, offset⟩) := by
  intro rest stops
  cases rest with
  | nil => rfl
  | cons c rest =>
      obtain ⟨notAtom, other⟩ := stops c rfl
      obtain ⟨noQuote, noBar⟩ := other rfl
      have same : (Scan.hash start).step offset c = (Scan.atom start ['#']).step offset c := by
        simp [step, noQuote, noBar]
      rw [run, same]
      exact run_atom_end notAtom rest

def BeganAt (start : Nat) : Scan → Prop
  | .hash begun | .quoted begun _ _ | .escape begun _ _ => begun = start
  | .atom begun seen => begun = start ∧ seen ≠ [] ∧ seen ≠ ['#']
  | .between | .lineComment | .block _ _ | .blockBar _ _ | .blockHash _ _ => True

theorem inBlock_beganAt (begun around : Nat) (c : Char) : (inBlock begun around c).BeganAt start := by
  rw [inBlock]
  split_ifs <;> trivial

theorem begin_beganAt (stepped : begin start c = .ok (next, [])) : next.BeganAt start := by
  rw [begin] at stepped
  split_ifs at stepped <;> cases stepped <;> simp_all [BeganAt]

theorem inAtom_beganAt (some : seen ≠ [])
    (stepped : inAtom start seen offset c = .ok (next, [])) : next.BeganAt start := by
  rw [inAtom] at stepped
  split at stepped
  next =>
    cases stepped
    exact ⟨rfl, by simp, by simp [some]⟩
  next =>
    obtain ⟨result, _, done⟩ := Outcome.bind_eq_ok.mp stepped
    cases done

theorem step_beganAt (began : scan.BeganAt start) (first : scan = between → offset = start)
    (stepped : scan.step offset c = .ok (next, [])) : next.BeganAt start := by
  cases scan with
  | between =>
      obtain rfl := first rfl
      exact begin_beganAt stepped
  | lineComment =>
      cases stepped
      split_ifs <;> trivial
  | hash begun =>
      obtain rfl : begun = start := began
      simp only [step] at stepped
      split_ifs at stepped
      · cases stepped
        rfl
      · cases stepped
        trivial
      · exact inAtom_beganAt (by simp) stepped
  | atom begun seen =>
      obtain ⟨rfl, some, _⟩ := began
      exact inAtom_beganAt some stepped
  | quoted begun verbatim seen =>
      simp only [step] at stepped
      split_ifs at stepped <;> cases stepped
      · exact began
      · exact began
  | escape begun verbatim seen =>
      cases stepped
      exact began
  | block begun around =>
      cases stepped
      exact inBlock_beganAt begun around c
  | blockBar begun around =>
      simp only [step] at stepped
      split_ifs at stepped
      · cases around <;> cases stepped <;> trivial
      · cases stepped
        exact inBlock_beganAt begun around c
  | blockHash begun around =>
      simp only [step] at stepped
      split_ifs at stepped
      · cases stepped
        trivial
      · cases stepped
        exact inBlock_beganAt begun around c

inductive Completes (scan : Scan) (start offset : Nat) (c : Char) : Token → Prop
  | closes {token : Token} (span : token.span = ⟨start, offset + c.utf8Size⟩)
      (anywhere : ∀ rest, token.StopsAt rest)
      (stepped : scan.step offset c = .ok (between, [token])) : Completes scan start offset c token
  | ended {token : Token} (span : token.span = ⟨start, offset⟩) (inside : scan ≠ between)
      (endsAs : scan.EndsAs offset token) (stops : ∀ rest, token.StopsAt (c :: rest)) :
      Completes scan start offset c token

theorem inAtom_completed (stepped : inAtom start seen offset c = .ok (next, token :: tokens)) :
    isAtomChar c = false ∧ token = .atom (String.ofList seen.reverse) ⟨start, offset⟩ := by
  rw [inAtom] at stepped
  split at stepped
  next => cases stepped
  next notAtom =>
    obtain ⟨result, _, done⟩ := Outcome.bind_eq_ok.mp stepped
    cases done
    exact ⟨by simpa using notAtom, rfl⟩

theorem step_completes (began : scan.BeganAt start) (first : scan = between → offset = start)
    (stepped : scan.step offset c = .ok (next, token :: tokens)) :
    Completes scan start offset c token := by
  cases scan with
  | between =>
      obtain rfl := first rfl
      have whole := stepped
      simp only [step, begin] at stepped
      split_ifs at stepped with _ _ opening closing <;> cases stepped
      · subst opening
        exact .closes rfl (fun _ => trivial) whole
      · subst closing
        exact .closes rfl (fun _ => trivial) whole
  | lineComment => cases stepped
  | hash begun =>
      obtain rfl : begun = start := began
      simp only [step] at stepped
      split_ifs at stepped with isQuote isBar
      · cases stepped
      · cases stepped
      · obtain ⟨notAtom, rfl⟩ := inAtom_completed stepped
        refine .ended rfl (by simp) (hash_endsAs begun offset) fun rest d same => ?_
        obtain rfl : c = d := Option.some.inj same
        exact ⟨notAtom, fun _ => ⟨isQuote, isBar⟩⟩
  | atom begun seen =>
      obtain ⟨rfl, _, other⟩ := began
      obtain ⟨notAtom, rfl⟩ := inAtom_completed stepped
      refine .ended rfl (by simp) (atom_endsAs begun offset seen) fun rest d same => ?_
      obtain rfl : c = d := Option.some.inj same
      refine ⟨notAtom, fun isHash => absurd ?_ other⟩
      have reversed : seen.reverse = ['#'] := by simpa using congrArg String.toList isHash
      exact List.reverse_eq_iff.mp reversed
  | quoted begun verbatim seen =>
      obtain rfl : begun = start := began
      have whole := stepped
      simp only [step] at stepped
      split_ifs at stepped with isQuote <;> cases stepped
      · subst isQuote
        cases verbatim
        · exact .closes rfl (fun _ => trivial) whole
        · exact .closes rfl (fun _ => trivial) whole
  | escape | block => cases stepped
  | blockBar begun around =>
      simp only [step] at stepped
      split_ifs at stepped
      · cases around <;> cases stepped
      · cases stepped
  | blockHash begun around =>
      simp only [step] at stepped
      split_ifs at stepped <;> cases stepped

/-! All tokens. -/

/-- What is in front of a scan that has completed no token: a gap, and behind it the beginning of
the token or comment that the scan is inside of. -/
def Pending (offset : Nat) (front : List Char) (scan : Scan) : Prop :=
  ∃ gap part, front = gap ++ part ∧ between.Passes offset gap between ∧
    between.Passes (offset + utf8Len gap) part scan ∧ scan.BeganAt (offset + utf8Len gap) ∧
    (part = [] ↔ scan = between)

theorem pending_nil (offset : Nat) : Pending offset [] between :=
  ⟨[], [], rfl, .refl _ _, .refl _ _, trivial, by simp⟩

theorem Pending.step (pending : Pending offset front scan)
    (stepped : scan.step (offset + utf8Len front) c = .ok (next, [])) :
    Pending offset (front ++ [c]) next := by
  obtain ⟨gap, part, rfl, silent, passes, began, empty⟩ := pending
  have first : scan = between → offset + utf8Len (gap ++ part) = offset + utf8Len gap := by
    intro isBetween
    rw [empty.mpr isBetween, List.append_nil]
  have began' := step_beganAt began first stepped
  rw [String.utf8Len_append, ← Nat.add_assoc] at stepped
  have passes' := passes.concat stepped
  by_cases isBetween : next = between
  · subst isBetween
    refine ⟨gap ++ (part ++ [c]), [], by simp, silent.append passes', .refl _ _, trivial, by simp⟩
  · exact ⟨gap, part ++ [c], by simp, silent, passes', began', by simp [isBetween]⟩

theorem Passes.reads (passes : between.Passes start part scan) (inside : part ≠ [])
    (span : token.span = ⟨start, start + utf8Len part⟩)
    (endsAs : scan.EndsAs (start + utf8Len part) token) : Reads start part token := by
  refine ⟨span, inside, fun rest stops => ?_⟩
  rw [passes rest, endsAs rest stops]

theorem Pending.exists_first (pending : Pending offset front scan)
    (scanned : scan.run (offset + utf8Len front) [] todo = .ok (token :: tokens)) :
    ∃ gap part rest, front ++ todo = gap ++ part ++ rest ∧ between.Passes offset gap between ∧
      Reads (offset + utf8Len gap) part token ∧ token.StopsAt rest ∧
      between.run (offset + utf8Len gap + utf8Len part) [] rest = .ok tokens := by
  induction todo generalizing front scan with
  | nil =>
      obtain ⟨gap, part, rfl, silent, passes, began, empty⟩ := pending
      obtain ⟨last, finished, done⟩ := Outcome.bind_eq_ok.mp scanned
      rw [String.utf8Len_append, ← Nat.add_assoc] at finished
      -- Only an atom is complete at the end of the text.
      cases scan with
      | hash begun =>
          obtain rfl : begun = _ := began
          cases finished
          cases done
          have reads := passes.reads (by simp [empty]) rfl (hash_endsAs _ _)
          exact ⟨gap, part, [], by simp, silent, reads, Token.stopsAt_nil _, rfl⟩
      | atom begun seen =>
          obtain ⟨rfl, _, _⟩ := began
          cases finished
          cases done
          have reads := passes.reads (by simp [empty]) rfl (atom_endsAs _ _ seen)
          exact ⟨gap, part, [], by simp, silent, reads, Token.stopsAt_nil _, rfl⟩
      | between | lineComment =>
          cases finished
          cases done
      | quoted | escape | block | blockBar | blockHash => cases finished
  | cons c todo ih =>
      obtain ⟨⟨next, completed⟩, stepped, _⟩ := Outcome.bind_eq_ok.mp scanned
      cases completed with
      | nil =>
          rw [run_cons stepped] at scanned
          obtain ⟨found, later, same⟩ := Outcome.map_eq_ok.mp scanned
          obtain rfl : found = token :: tokens := same
          have further : offset + utf8Len (front ++ [c]) =
              offset + utf8Len front + c.utf8Size := by
            simp [Nat.add_assoc]
          simpa using ih (pending.step stepped) (further ▸ later)
      | cons first others =>
          obtain ⟨gap, part, rfl, silent, passes, began, empty⟩ := pending
          have place : offset + utf8Len (gap ++ part) =
              offset + utf8Len gap + utf8Len part := by
            rw [String.utf8Len_append, Nat.add_assoc]
          have fresh : scan = between → offset + utf8Len (gap ++ part) = offset + utf8Len gap := by
            intro isBetween
            rw [empty.mpr isBetween, List.append_nil]
          rw [place] at stepped fresh scanned
          cases step_completes began fresh stepped with
          | closes span anywhere stepped =>
              rw [run_cons stepped] at scanned
              obtain ⟨found, later, same⟩ := Outcome.map_eq_ok.mp scanned
              cases same
              have further : offset + utf8Len gap + utf8Len (part ++ [c]) =
                  offset + utf8Len gap + utf8Len part + c.utf8Size := by
                simp [Nat.add_assoc]
              refine ⟨gap, part ++ [c], todo, by simp, silent, ⟨?_, by simp, ?_⟩, anywhere todo,
                further ▸ later⟩
              · rw [further, span]
              · intro rest stops
                rw [List.append_assoc, passes, List.singleton_append, run_cons stepped, further]
                rfl
          | ended span inside endsAs stops =>
              rw [endsAs _ (stops todo)] at scanned
              obtain ⟨found, later, same⟩ := Outcome.map_eq_ok.mp scanned
              cases same
              have reads := passes.reads (by simpa [empty] using inside) span endsAs
              exact ⟨gap, part, c :: todo, by simp, silent, reads, stops todo, later⟩

/-- The text has these tokens, each in its own part, with gaps in front, between and behind. -/
inductive Laid : Nat → List Char → List Token → Prop
  | gap {offset : Nat} {text : List Char} (silent : between.run offset [] text = .ok []) :
      Laid offset text []
  | token {offset : Nat} {gap part rest : List Char} {token : Token} {tokens : List Token}
      (silent : between.Passes offset gap between) (reads : Reads (offset + utf8Len gap) part token)
      (stops : token.StopsAt rest)
      (later : Laid (offset + utf8Len gap + utf8Len part) rest tokens) :
      Laid offset (gap ++ part ++ rest) (token :: tokens)

theorem run_eq_ok : between.run offset [] text = .ok tokens ↔ Laid offset text tokens := by
  constructor
  · intro scanned
    induction tokens generalizing offset text with
    | nil => exact .gap scanned
    | cons token tokens ih =>
        obtain ⟨gap, part, rest, split, silent, reads, stops, later⟩ :=
          (pending_nil offset).exists_first scanned
        obtain rfl : text = gap ++ part ++ rest := split
        exact .token silent reads stops (ih later)
  · intro laid
    induction laid with
    | gap silent => exact silent
    | token silent reads stops _ ih =>
        rw [List.append_assoc, silent, reads.onward _ stops, ih]
        rfl

theorem Laid.span_lt (laid : Laid offset text tokens) :
    ∀ token ∈ tokens, offset ≤ token.span.start ∧ token.span.start < token.span.stop := by
  induction laid with
  | gap => simp
  | @token offset gap part rest token tokens _ reads _ _ ih =>
      have positive : utf8Len part ≠ 0 := by simpa using reads.nonempty
      intro other member
      rcases List.mem_cons.mp member with rfl | later
      · rw [reads.span]
        constructor
        · exact Nat.le_add_right _ _
        · dsimp only
          omega
      · obtain ⟨behind, some⟩ := ih other later
        exact ⟨by omega, some⟩

theorem Laid.ordered (laid : Laid offset text tokens) :
    tokens.Pairwise fun first second => first.span.Precedes second.span := by
  induction laid with
  | gap => exact .nil
  | token _ reads _ later ih =>
      refine .cons (fun other member => ?_) ih
      rw [Span.Precedes, reads.span]
      exact (later.span_lt other member).1

theorem Laid.drop {before : List Token} (laid : Laid offset text (before ++ token :: tokens)) :
    ∃ front rest, text = front ++ rest ∧ token.span.start = offset + utf8Len front ∧
      Laid (offset + utf8Len front) rest (token :: tokens) := by
  induction before generalizing offset text with
  | nil =>
      cases laid with
      | @token _ gap part rest _ _ silent reads stops later =>
          refine ⟨gap, part ++ rest, by simp, by rw [reads.span], ?_⟩
          exact Laid.token (Passes.refl between _) reads stops later
  | cons earlier before ih =>
      cases laid with
      | @token _ gap part rest _ _ silent reads stops later =>
          obtain ⟨front, rest, rfl, start, laid⟩ := ih later
          refine ⟨gap ++ part ++ front, rest, by simp, ?_, ?_⟩
          · rw [start]
            simp [Nat.add_assoc]
          · simpa [Nat.add_assoc] using laid

theorem Laid.take {before after : List Token}
    (laid : Laid offset text (before ++ token :: after)) :
    ∃ part rest, text = part ++ rest ∧ token.span.stop = offset + utf8Len part ∧
      between.run offset [] part = .ok (before ++ [token]) := by
  induction before generalizing offset text with
  | nil =>
      cases laid with
      | @token _ gap part rest _ _ silent reads stops later =>
          refine ⟨gap ++ part, rest, rfl, ?_, ?_⟩
          · rw [reads.span]
            simp [Nat.add_assoc]
          · have alone := reads.onward [] token.stopsAt_nil
            rw [List.append_nil] at alone
            rw [silent, alone]
            rfl
  | cons earlier before ih =>
      cases laid with
      | @token _ gap part rest _ _ silent reads stops later =>
          obtain ⟨front, rest, rfl, stop, scanned⟩ := ih later
          refine ⟨gap ++ part ++ front, rest, by simp, ?_, ?_⟩
          · rw [stop]
            simp [Nat.add_assoc]
          · rw [List.append_assoc, silent, reads.onward _ stops.shorter, scanned]
            rfl

end Scan

end SandboxPolicy
