import Mathlib
import SandboxPolicy.Proofs.Lexemes
import SandboxPolicy.Proofs.Positions

/-!
Sources written one below the other. A newline ends whatever a source can end with, so the source
behind it is read as it is alone: its expressions follow those in front, its complaints are kept,
and its places are moved by what is in front of them.
-/

namespace SandboxPolicy

open String (utf8Len)

variable {offset : Nat} {text first second rest : List Char}

/-! Tokens. -/

namespace Scan

variable {scan : Scan} {tokens : List Token}

theorem newline_step (offset : Nat) : between.step offset '\n' = .ok (between, []) := rfl

theorem EndsAs.newline {token : Token} (ends : scan.EndsAs offset token)
    (stops : token.StopsAt ('\n' :: rest)) :
    scan.run offset [] ('\n' :: rest) =
      (between.run (offset + 1) [] rest).map ([token] ++ ·) := by
  have passed := run_cons (newline_step offset) rest
  change _ = (between.run (offset + 1) [] rest).map _ at passed
  rw [ends _ stops, passed]
  cases between.run (offset + 1) [] rest <;> rfl

theorem finish_newline (finished : scan.finish offset = .ok tokens) (rest : List Char) :
    scan.run offset [] ('\n' :: rest) = (between.run (offset + 1) [] rest).map (tokens ++ ·) := by
  have stops (c : Char) (same : c ∈ ('\n' :: rest).head?) :
      isAtomChar c = false ∧ c ≠ '"' ∧ c ≠ '|' := by
    obtain rfl : '\n' = c := Option.some.inj same
    decide
  cases scan with
  | between | lineComment =>
      cases finished
      exact run_cons rfl rest
  | hash start =>
      cases finished
      refine (hash_endsAs start offset).newline fun c same => ?_
      exact ⟨(stops c same).1, fun _ => (stops c same).2⟩
  | atom start seen =>
      cases finished
      refine (atom_endsAs start offset seen).newline fun c same => ?_
      exact ⟨(stops c same).1, fun _ => (stops c same).2⟩
  | quoted | escape | block | blockBar | blockHash => cases finished

theorem run_newline (scanned : scan.run offset [] text = .ok tokens) (rest : List Char) :
    scan.run offset [] (text ++ '\n' :: rest) =
      (between.run (offset + utf8Len text + 1) [] rest).map (tokens ++ ·) := by
  induction text generalizing scan offset tokens with
  | nil =>
      obtain ⟨last, finished, done⟩ := Outcome.bind_eq_ok.mp scanned
      cases done
      exact finish_newline finished rest
  | cons c text ih =>
      obtain ⟨⟨next, completed⟩, stepped, _⟩ := Outcome.bind_eq_ok.mp scanned
      rw [run_cons stepped] at scanned
      obtain ⟨found, later, rfl⟩ := Outcome.map_eq_ok.mp scanned
      have place : offset + utf8Len (c :: text) + 1 = offset + c.utf8Size + utf8Len text + 1 := by
        rw [String.utf8Len_cons]
        omega
      rw [List.cons_append, run_cons stepped, ih later, place]
      cases between.run (offset + c.utf8Size + utf8Len text + 1) [] rest <;>
        simp [Except.map]

end Scan

/-! Expressions. -/

namespace SExpr

variable {exprs : List SExpr}

theorem ofChars_newline (read : ofChars first = .ok exprs) (second : List Char) :
    ofChars (first ++ '\n' :: second) =
      (Outcome.moved (· + (utf8Len first + 1)) (List.map (moved (· + (utf8Len first + 1))))
        (ofChars second)).map (exprs ++ ·) := by
  obtain ⟨tokens, scanned, assembled⟩ := Outcome.bind_eq_ok.mp read
  have spells := assemble_eq_ok.mp assembled
  have joined : scanTokens (first ++ '\n' :: second) =
      (Scan.between.run (utf8Len first + 1) [] second).map (tokens ++ ·) := by
    have whole := Scan.run_newline scanned second
    rwa [Nat.zero_add] at whole
  rw [ofChars, joined, scanTokens_moved, ofChars]
  -- An error of the scanner comes before anything is put together, in front or behind.
  cases scanTokens second with
  | error error => rfl
  | ok found =>
      change assemble [] [] (tokens ++ found.map (Token.moved _)) =
        (Outcome.moved _ _ (assemble [] [] found)).map _
      rw [spells.assemble]
      cases assembled' : assemble [] [] found with
      | error error => exact assemble_eq_error _ rfl assembled'
      | ok others =>
          have behind := (assemble_eq_ok.mp assembled').moved (utf8Len first + 1)
          have closed := behind.assemble [] (exprs.reverse ++ []) []
          simpa [assemble, Outcome.moved, Except.map] using closed

end SExpr

/-! Positions. -/

theorem positionAt_joined (first second : String) (offset : Nat) :
    positionAt (first ++ "\n" ++ second) (offset + (first.utf8ByteSize + 1)) =
      ⟨(positionAt second offset).line + (first.toList.count '\n' + 1),
        (positionAt second offset).column⟩ := by
  have size : first.utf8ByteSize + 1 = utf8Len (first.toList ++ ['\n']) := by
    rw [String.utf8Len_append, ← String.utf8ByteSize_ofList, String.ofList_toList]
    rfl
  have chars : (first ++ "\n" ++ second).toList = (first.toList ++ ['\n']) ++ second.toList := by
    simp
  have ended : (first.toList ++ ['\n']).foldl Position.after .start =
      ⟨1 + (first.toList.count '\n' + 1), 1⟩ := by
    have lines := Position.foldl_after_count first.toList .start
    rw [List.foldl_append, List.foldl_cons, List.foldl_nil, Position.after, if_pos rfl, lines]
    rfl
  rw [positionAt, positionAt, chars, size, charsBefore_append, List.foldl_append, ended]
  exact Position.foldl_after_line _ _ _ _

namespace SExpr

/-- What is below a source that can be read is read as it is alone: its expressions are moved
behind those of the source, and so is the place of its error. -/
theorem parse_joined {first : String} {exprs : List SExpr} (parsed : parse first = .ok exprs)
    (second : String) :
    (∀ others, parse second = .ok others →
      parse (first ++ "\n" ++ second) =
        .ok (exprs ++ others.map (moved (· + (first.utf8ByteSize + 1))))) ∧
    ∀ error, parse second = .error error →
      parse (first ++ "\n" ++ second) =
        .error ⟨error.fault, error.offset + (first.utf8ByteSize + 1),
          positionAt (first ++ "\n" ++ second) (error.offset + (first.utf8ByteSize + 1))⟩ ∧
      positionAt (first ++ "\n" ++ second) (error.offset + (first.utf8ByteSize + 1)) =
        ⟨error.position.line + (first.toList.count '\n' + 1), error.position.column⟩ := by
  have size : first.utf8ByteSize = utf8Len first.toList := by
    rw [← String.utf8ByteSize_ofList, String.ofList_toList]
  have chars : (first ++ "\n" ++ second).toList = first.toList ++ '\n' :: second.toList := by
    simp
  have joined := ofChars_newline (parse_eq_ofChars.mp parsed) second.toList
  rw [← chars, ← size] at joined
  constructor
  · intro others found
    rw [parse_eq_ofChars.mp found] at joined
    exact parse_eq_ofChars.mpr joined
  · intro error failed
    obtain ⟨found, read, rfl⟩ := parse_eq_error.mp failed
    rw [read] at joined
    exact ⟨parse_eq_error.mpr ⟨_, joined, rfl⟩, positionAt_joined first second _⟩

theorem parse_joined_comment :
    parse "(a) #; é" = .ok [.list [.atom "a" ⟨1, 2⟩] ⟨0, 3⟩, .atom "#" ⟨4, 5⟩] ∧
      parse "(a) #; é\nb" =
        .ok [.list [.atom "a" ⟨1, 2⟩] ⟨0, 3⟩, .atom "#" ⟨4, 5⟩, .atom "b" ⟨10, 11⟩] ∧
      parse "(a) #; é\n;\n)" = .error ⟨.unmatchedParen, 12, ⟨3, 1⟩⟩ := by
  have parsed : parse "(a) #; é" =
    .ok [.list [.atom "a" ⟨1, 2⟩] ⟨0, 3⟩, .atom "#" ⟨4, 5⟩] := by cbv
  refine ⟨parsed, (parse_joined parsed "b").1 [.atom "b" ⟨0, 1⟩] (by cbv), ?_⟩
  exact ((parse_joined parsed ";\n)").2 ⟨.unmatchedParen, 2, ⟨2, 1⟩⟩ (by cbv)).1

end SExpr

end SandboxPolicy
