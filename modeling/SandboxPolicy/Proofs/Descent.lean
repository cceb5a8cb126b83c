import Mathlib
import SandboxPolicy.SExpr.Reader

/-!
Reading by descent. A list is read by reading each of its items, which gives what is given by
putting tokens together with the lists that are open.
-/

namespace SandboxPolicy

namespace Descent

open SExpr

/-- What is found in front of the tokens that are left, of which there are fewer. The error `none`
is that an expression is wanted where there are no more tokens. -/
abbrev Reading (α : Type) (tokens : List Token) :=
  Except (Option ReadError) (α × { rest : List Token // rest.length < tokens.length })

mutual

def expr : (tokens : List Token) → Reading SExpr tokens
  | [] => .error none
  | .opening start :: tokens =>
      match items start tokens with
      | .error error => .error error
      | .ok ((found, offset), ⟨rest, fewer⟩) =>
          .ok (.list found ⟨start, offset + 1⟩, ⟨rest, Nat.lt_succ_of_lt fewer⟩)
  | .closing offset :: _ => .error (some ⟨.unmatchedParen, offset⟩)
  | .atom text span :: tokens => .ok (.atom text span, ⟨tokens, Nat.lt_succ_self _⟩)
  | .str text span :: tokens => .ok (.str text span, ⟨tokens, Nat.lt_succ_self _⟩)
  | .regex text span :: tokens => .ok (.regex text span, ⟨tokens, Nat.lt_succ_self _⟩)
termination_by tokens => (tokens.length, 0)

def items (start : Nat) : (tokens : List Token) → Reading (List SExpr × Nat) tokens
  | [] => .error (some ⟨.unclosedParen, start⟩)
  | .closing offset :: tokens => .ok (([], offset), ⟨tokens, Nat.lt_succ_self _⟩)
  | tokens =>
      match expr tokens with
      | .error error => .error error
      | .ok (first, ⟨rest, fewer⟩) =>
          match items start rest with
          | .error error => .error error
          | .ok ((others, offset), ⟨left, fewer'⟩) =>
              .ok ((first :: others, offset), ⟨left, Nat.lt_trans fewer' fewer⟩)
termination_by tokens => (tokens.length, 1)

end

def exprs : List Token → Except (Option ReadError) (List SExpr)
  | [] => .ok []
  | token :: tokens =>
      match expr (token :: tokens) with
      | .error error => .error error
      | .ok (first, rest) => (exprs rest.1).map (first :: ·)
termination_by tokens => tokens.length
decreasing_by exact rest.2

def Agrees {α : Type} {tokens : List Token} (reading : Reading α tokens)
    (assembled : Except ReadError (List SExpr))
    (next : α → List Token → Except ReadError (List SExpr)) : Prop :=
  match reading with
  | .ok (value, rest) => assembled = next value rest.1
  | .error error => ∃ found, error = some found ∧ assembled = .error found

theorem items_step {start : Nat} {tokens : List Token} (nonempty : tokens ≠ [])
    (goesOn : ∀ offset rest, tokens ≠ .closing offset :: rest) (stack : List (Nat × List SExpr))
    (before seen : List SExpr)
    (first : Agrees (expr tokens) (assemble ((start, before) :: stack) seen tokens)
      fun found rest => assemble ((start, before) :: stack) (found :: seen) rest)
    (later : ∀ rest : List Token, rest.length < tokens.length → ∀ seen,
      Agrees (items start rest) (assemble ((start, before) :: stack) seen rest) fun found left =>
        assemble stack (.list (seen.reverse ++ found.1) ⟨start, found.2 + 1⟩ :: before) left) :
    Agrees (items start tokens) (assemble ((start, before) :: stack) seen tokens)
      fun found left =>
        assemble stack (.list (seen.reverse ++ found.1) ⟨start, found.2 + 1⟩ :: before) left := by
  rw [items.eq_3 start tokens nonempty goesOn]
  cases read : expr tokens with
  | error error =>
      rw [read] at first
      exact first
  | ok result =>
      obtain ⟨found, rest, fewer⟩ := result
      rw [read] at first
      have assembled : assemble ((start, before) :: stack) seen tokens =
        assemble ((start, before) :: stack) (found :: seen) rest := first
      have others := later rest fewer (found :: seen)
      rw [assembled]
      dsimp only
      cases read' : items start rest with
      | error error =>
          rw [read'] at others
          exact others
      | ok result =>
          obtain ⟨⟨listed, offset⟩, left, fewer'⟩ := result
          rw [read'] at others
          simpa [Agrees] using others

mutual

theorem expr_agrees : (tokens : List Token) → tokens ≠ [] →
    (stack : List (Nat × List SExpr)) → (seen : List SExpr) →
    (stack = [] ∨ ∀ offset rest, tokens ≠ .closing offset :: rest) →
    Agrees (expr tokens) (assemble stack seen tokens) fun found rest =>
      assemble stack (found :: seen) rest
  | [], nonempty, _, _, _ => absurd rfl nonempty
  | .opening start :: tokens, _, stack, seen, _ => by
      have inside := items_agrees start tokens stack seen []
      rw [expr, assemble]
      cases read : items start tokens with
      | error error =>
          rw [read] at inside
          exact inside
      | ok result =>
          rw [read] at inside
          exact inside
  | .closing offset :: tokens, _, stack, seen, goesOn => by
      obtain rfl := goesOn.resolve_right fun goesOn => goesOn offset tokens rfl
      rw [expr, assemble]
      exact ⟨_, rfl, rfl⟩
  | .atom text span :: tokens, _, stack, seen, _ => by
      rw [expr, assemble]
      exact rfl
  | .str text span :: tokens, _, stack, seen, _ => by
      rw [expr, assemble]
      exact rfl
  | .regex text span :: tokens, _, stack, seen, _ => by
      rw [expr, assemble]
      exact rfl
termination_by tokens => (tokens.length, 0)

theorem items_agrees (start : Nat) : (tokens : List Token) →
    (stack : List (Nat × List SExpr)) → (before seen : List SExpr) →
    Agrees (items start tokens) (assemble ((start, before) :: stack) seen tokens)
      fun found left =>
        assemble stack (.list (seen.reverse ++ found.1) ⟨start, found.2 + 1⟩ :: before) left
  | [], stack, before, seen => by
      rw [items, assemble]
      exact ⟨_, rfl, rfl⟩
  | .closing offset :: tokens, stack, before, seen => by
      rw [items, assemble]
      simp [Agrees]
  | .opening _ :: tokens, stack, before, seen | .atom _ _ :: tokens, stack, before, seen
  | .str _ _ :: tokens, stack, before, seen | .regex _ _ :: tokens, stack, before, seen =>
      items_step (by simp) (by simp) stack before seen
        (expr_agrees _ (by simp) _ seen (.inr (by simp)))
        fun rest _ seen => items_agrees start rest stack before seen
termination_by tokens => (tokens.length, 1)

end

/-- Reading by descent gives what putting together gives, and never looks for an expression where
there are no more tokens. -/
theorem exprs_eq (tokens : List Token) (seen : List SExpr) :
    (exprs tokens).map (seen.reverse ++ ·) = (assemble [] seen tokens).mapError some := by
  induction tokens using exprs.induct generalizing seen with
  | case1 =>
    rw [exprs, assemble]
    simp [Except.map, Except.mapError]
  | case2 token tokens error read =>
    have first := expr_agrees (token :: tokens) (by simp) [] seen (.inl rfl)
    rw [read] at first
    obtain ⟨found, rfl, failed⟩ := first
    rw [exprs, read, failed]
    rfl
  | case3 token tokens found rest read ih =>
    have first := expr_agrees (token :: tokens) (by simp) [] seen (.inl rfl)
    rw [read] at first
    have assembled : assemble [] seen (token :: tokens) = assemble [] (found :: seen) rest.1 :=
      first
    rw [exprs, read, assembled, ← ih]
    dsimp only
    cases exprs rest.1 <;> simp [Except.map]

end Descent

end SandboxPolicy
