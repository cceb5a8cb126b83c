import Mathlib
import SandboxPolicy.Proofs.Balance
import SandboxPolicy.Proofs.Descent
import SandboxPolicy.Proofs.Lexemes
import SandboxPolicy.Proofs.Positions

/-!
Parentheses and what is complained of. A source is read just when its parentheses match, and every
complaint is about a character of the source.
-/

namespace SandboxPolicy

open String (utf8Len)

def IsBoundary (text : List Char) (offset : Nat) : Prop :=
  ∃ front c rest, text = front ++ c :: rest ∧ offset = utf8Len front

namespace Scan

variable {scan next : Scan} {offset start : Nat} {c : Char} {front todo : List Char}
  {completed tokens : List Token} {error : ReadError}

def start? : Scan → Option Nat
  | .between | .lineComment => none
  | .hash start | .atom start _ | .quoted start _ _ | .escape start _ _ | .block start _
  | .blockBar start _ | .blockHash start _ => some start

theorem begin_start (begun : begin offset c = .ok (next, completed))
    (inside : start ∈ next.start?) : start = offset := by
  rw [begin] at begun
  split_ifs at begun <;> cases begun <;> simp_all [start?]

theorem inAtom_start {began : Nat} {seen : List Char}
    (stepped : inAtom began seen offset c = .ok (next, completed)) (inside : start ∈ next.start?) :
    start = offset ∨ began = start := by
  rw [inAtom] at stepped
  split at stepped
  next =>
    cases stepped
    exact .inr (Option.some.inj inside)
  next =>
    obtain ⟨⟨found, _⟩, begun, done⟩ := Outcome.bind_eq_ok.mp stepped
    cases done
    exact .inl (begin_start begun inside)

theorem inBlock_start {began around : Nat} (inside : start ∈ (inBlock began around c).start?) :
    began = start := by
  rw [inBlock] at inside
  split_ifs at inside <;> exact Option.some.inj inside

theorem step_start (stepped : scan.step offset c = .ok (next, completed))
    (inside : start ∈ next.start?) : start = offset ∨ start ∈ scan.start? := by
  cases scan with
  | between => exact .inl (begin_start stepped inside)
  | lineComment =>
      cases stepped
      split_ifs at inside <;> cases inside
  | hash began =>
      simp only [step] at stepped
      split_ifs at stepped
      · cases stepped
        exact .inr inside
      · cases stepped
        exact .inr inside
      · exact (inAtom_start stepped inside).imp_right (congrArg some)
  | atom began seen => exact (inAtom_start stepped inside).imp_right (congrArg some)
  | quoted began verbatim seen =>
      simp only [step] at stepped
      split_ifs at stepped <;> cases stepped
      · cases inside
      · exact .inr inside
      · exact .inr inside
  | escape began verbatim seen =>
      cases stepped
      exact .inr inside
  | block began around =>
      cases stepped
      exact .inr (congrArg some (inBlock_start inside))
  | blockBar began around =>
      simp only [step] at stepped
      split_ifs at stepped
      · cases around <;> cases stepped
        · cases inside
        · exact .inr inside
      · cases stepped
        exact .inr (congrArg some (inBlock_start inside))
  | blockHash began around =>
      simp only [step] at stepped
      split_ifs at stepped <;> cases stepped
      · exact .inr inside
      · exact .inr (congrArg some (inBlock_start inside))

theorem begin_error (failed : begin offset c = .error error) : error.offset = offset := by
  rw [begin] at failed
  split_ifs at failed
  cases failed
  rfl

theorem inAtom_error {began : Nat} {seen : List Char}
    (failed : inAtom began seen offset c = .error error) : error.offset = offset := by
  rw [inAtom] at failed
  split at failed
  next => cases failed
  next =>
    rcases Outcome.bind_eq_error.mp failed with failed | ⟨_, _, done⟩
    · exact begin_error failed
    · cases done

theorem step_error (failed : scan.step offset c = .error error) : error.offset = offset := by
  cases scan with
  | between => exact begin_error failed
  | hash began =>
      simp only [step] at failed
      split_ifs at failed
      exact inAtom_error failed
  | atom began seen => exact inAtom_error failed
  | lineComment | escape | block => cases failed
  | quoted began verbatim seen =>
      simp only [step] at failed
      split_ifs at failed
  | blockBar began around =>
      simp only [step] at failed
      split_ifs at failed
      cases around <;> cases failed
  | blockHash began around =>
      simp only [step] at failed
      split_ifs at failed

theorem finish_error (failed : scan.finish offset = .error error) :
    error.offset ∈ scan.start? := by
  cases scan <;> cases failed <;> rfl

theorem run_error (inside : ∀ start ∈ scan.start?, IsBoundary (front ++ todo) start)
    (failed : scan.run (utf8Len front) tokens todo = .error error) :
    IsBoundary (front ++ todo) error.offset := by
  induction todo generalizing front scan tokens with
  | nil =>
      rcases Outcome.bind_eq_error.mp failed with failed | ⟨_, _, done⟩
      · exact inside _ (finish_error failed)
      · cases done
  | cons c todo ih =>
      have here : IsBoundary (front ++ c :: todo) (utf8Len front) := ⟨front, c, todo, rfl, rfl⟩
      rcases Outcome.bind_eq_error.mp failed with failed | ⟨⟨next, completed⟩, stepped, failed⟩
      · exact step_error failed ▸ here
      · have split : front ++ c :: todo = front ++ [c] ++ todo := by simp
        have further : utf8Len front + c.utf8Size = utf8Len (front ++ [c]) := by simp
        rw [further] at failed
        rw [split]
        refine ih (fun start begun => ?_) failed
        rw [← split]
        rcases step_start stepped begun with rfl | earlier
        · exact here
        · exact inside start earlier

theorem Laid.boundary {text : List Char} {token : Token} (laid : Laid 0 text tokens)
    (member : token ∈ tokens) : IsBoundary text token.span.start := by
  obtain ⟨before, after, rfl⟩ := List.append_of_mem member
  obtain ⟨front, rest, rfl, start, later⟩ := laid.drop
  rw [Nat.zero_add] at start
  cases rest with
  | nil => cases run_eq_ok.mpr later
  | cons c rest => exact ⟨front, c, rest, rfl, start⟩

end Scan

theorem ReadFault.unexpectedChar_length (c : Char) :
    (unexpectedChar c).message.length = 24 := by
  have written : (unexpectedChar c).message = "unexpected character '" ++ c.toString ++ "'" := rfl
  rw [written, String.length_append, String.length_append, Char.toString, String.length_singleton]
  rfl

theorem ReadFault.message_ne (fault : ReadFault) : fault.message ≠ "unexpected end of input" := by
  cases fault with
  | unexpectedChar c =>
      intro same
      have lengths := congrArg String.length same
      rw [unexpectedChar_length] at lengths
      exact absurd lengths (by decide)
  | unterminatedString | unterminatedComment | unclosedParen | unmatchedParen => decide +kernel

structure SyntaxError.Located (source : String) (error : SyntaxError) : Prop where
  inside : error.offset < source.utf8ByteSize
  placed : ∃ front c rest, source.toList = front ++ c :: rest ∧ error.offset = utf8Len front ∧
    error.position =
      ⟨front.count '\n' + 1, (front.reverse.takeWhile (· ≠ '\n')).length + 1⟩

namespace SExpr

theorem ofChars_error {text : List Char} {error : ReadError}
    (failed : ofChars text = .error error) : IsBoundary text error.offset := by
  rcases Outcome.bind_eq_error.mp failed with failed | ⟨tokens, scanned, failed⟩
  · exact @Scan.run_error .between [] text [] error (fun _ none => by cases none) failed
  · have laid := Scan.run_eq_ok.mp scanned
    cases culprit_of_error failed with
    | unmatched split _ => exact laid.boundary (split ▸ List.mem_append_right _ List.mem_cons_self)
    | unclosed split _ _ => exact laid.boundary (split ▸ List.mem_append_right _ List.mem_cons_self)

theorem parse_located {source : String} {error : SyntaxError}
    (failed : parse source = .error error) : error.Located source := by
  obtain ⟨found, read, rfl⟩ := parse_eq_error.mp failed
  obtain ⟨front, c, rest, split, place⟩ := ofChars_error read
  refine ⟨?_, front, c, rest, split, place, ?_⟩
  · have size := congrArg utf8Len split
    have positive := c.utf8Size_pos
    rw [String.utf8Len_append, String.utf8Len_cons, ← String.utf8ByteSize_ofList,
      String.ofList_toList] at size
    dsimp only
    omega
  · rw [place]
    exact positionAt_boundary split

/-- What becomes of a source, by the parentheses among its tokens. The first closing one without a
partner is complained of, or else the last opening one; to read by descent makes no difference. -/
structure Paired (source : String) (tokens : List Token) : Prop where
  accepted : (∃ exprs, parse source = .ok exprs) ↔ Balanced tokens
  unmatched : ¬Matched tokens → ∃ before offset after,
    tokens = before ++ .closing offset :: after ∧ Balanced before ∧
      parse source = .error ⟨.unmatchedParen, offset, positionAt source offset⟩
  unclosed : Matched tokens → ¬Balanced tokens → ∃ before start after,
    tokens = before ++ .opening start :: after ∧ Balanced after ∧
      parse source = .error ⟨.unclosedParen, start, positionAt source start⟩
  descent : Descent.exprs tokens = (ofChars source.toList).mapError some
  goesOn : Descent.exprs tokens ≠ .error none

theorem paired_of_scan {source : String} {tokens : List Token}
    (scanned : scanTokens source.toList = .ok tokens) : Paired source tokens := by
  have read : ofChars source.toList = assemble [] [] tokens := by
    rw [ofChars, scanned]
    rfl
  have descent : Descent.exprs tokens = (ofChars source.toList).mapError some := by
    have whole := Descent.exprs_eq tokens []
    rw [read, ← whole]
    cases Descent.exprs tokens <;> simp [Except.map]
  refine ⟨?_, fun unmatched => ?_, fun matched unbalanced => ?_, descent, fun ended => ?_⟩
  · rw [← assemble_accepts, ← read]
    exact exists_congr fun exprs => parse_eq_ofChars
  · obtain ⟨before, offset, after, split, balanced, failed⟩ := exists_unmatched unmatched
    exact ⟨before, offset, after, split, balanced,
      parse_eq_error.mpr ⟨_, read.trans failed, rfl⟩⟩
  · obtain ⟨before, start, after, split, balanced, failed⟩ := exists_unclosed matched unbalanced
    exact ⟨before, start, after, split, balanced, parse_eq_error.mpr ⟨_, read.trans failed, rfl⟩⟩
  · rw [descent] at ended
    obtain ⟨error, _, none⟩ := Outcome.mapError_eq_error.mp ended
    cases none

/-- Parentheses decide what becomes of a source that can be scanned, and whatever is complained of
in any source has a place in it. -/
theorem parse_parentheses (source : String) :
    (∀ tokens, scanTokens source.toList = .ok tokens → Paired source tokens) ∧
      ∀ error, parse source = .error error →
        error.Located source ∧ error.fault.message ≠ "unexpected end of input" :=
  ⟨fun _ scanned => paired_of_scan scanned,
    fun error failed => ⟨parse_located failed, error.fault.message_ne⟩⟩

/-- A parenthesis that closes nothing comes before all that are left open, wherever it is. -/
theorem parse_parentheses_mixed :
    ∃ tokens, scanTokens "(\"é\"\n))((".toList = .ok tokens ∧ Paired "(\"é\"\n))((" tokens ∧
      parse "(\"é\"\n))((" = .error ⟨.unmatchedParen, 7, ⟨2, 2⟩⟩ ∧
      parse "(\"é\"\n((" = .error ⟨.unclosedParen, 7, ⟨2, 2⟩⟩ := by
  have scanned : scanTokens "(\"é\"\n))((".toList = .ok [.opening 0, .str "é" ⟨1, 5⟩, .closing 6,
    .closing 7, .opening 8, .opening 9] := by cbv
  exact ⟨_, scanned, (parse_parentheses _).1 _ scanned, by cbv, by cbv⟩

end SExpr

end SandboxPolicy
