import Mathlib
import SandboxPolicy.Proofs.Spelling

/-!
Which parentheses match. Tokens are put together just when each of their parentheses has a partner,
and where they are not, the complaint is about one that has none.
-/

namespace SandboxPolicy

namespace Token

def isOpening : Token → Bool
  | .opening _ => true
  | _ => false

def isClosing : Token → Bool
  | .closing _ => true
  | _ => false

end Token

variable {tokens first second inner : List Token}

def openings (tokens : List Token) : Nat := tokens.countP Token.isOpening

def closings (tokens : List Token) : Nat := tokens.countP Token.isClosing

theorem openings_append (first second : List Token) :
    openings (first ++ second) = openings first + openings second := List.countP_append

theorem closings_append (first second : List Token) :
    closings (first ++ second) = closings first + closings second := List.countP_append

theorem openings_opening (start : Nat) (tokens : List Token) :
    openings (.opening start :: tokens) = openings tokens + 1 := List.countP_cons_of_pos rfl

theorem closings_opening (start : Nat) (tokens : List Token) :
    closings (.opening start :: tokens) = closings tokens :=
  List.countP_cons_of_neg Bool.false_ne_true

theorem openings_closing (offset : Nat) (tokens : List Token) :
    openings (.closing offset :: tokens) = openings tokens :=
  List.countP_cons_of_neg Bool.false_ne_true

theorem closings_closing (offset : Nat) (tokens : List Token) :
    closings (.closing offset :: tokens) = closings tokens + 1 := List.countP_cons_of_pos rfl

def Matched (tokens : List Token) : Prop :=
  ∀ before after, tokens = before ++ after → closings before ≤ openings before

structure Balanced (tokens : List Token) : Prop where
  matched : Matched tokens
  closed : closings tokens = openings tokens

theorem Matched.count_le (matched : Matched tokens) : closings tokens ≤ openings tokens :=
  matched tokens [] (List.append_nil _).symm

theorem Matched.append (matched : Matched first) (matched' : Matched second) :
    Matched (first ++ second) := by
  intro before after split
  rcases List.append_eq_append_iff.mp split with ⟨more, rfl, rest⟩ | ⟨more, rfl, _⟩
  · have begun := matched.count_le
    have later := matched' more after rest
    rw [closings_append, openings_append]
    omega
  · exact matched before more rfl

theorem matched_of_opens (opens : ∀ token ∈ tokens, token.isClosing = false) : Matched tokens := by
  rintro before after rfl
  have none : closings before = 0 := by
    rw [closings, List.countP_eq_zero]
    intro token member
    simp [opens token (List.mem_append_left _ member)]
  omega

theorem matched_opening (start : Nat) : Matched [.opening start] :=
  matched_of_opens (List.forall_mem_singleton.mpr rfl)

theorem balanced_nil : Balanced [] := ⟨matched_of_opens (List.forall_mem_nil _), rfl⟩

theorem Balanced.append (balanced : Balanced first) (balanced' : Balanced second) :
    Balanced (first ++ second) where
  matched := balanced.matched.append balanced'.matched
  closed := by rw [closings_append, openings_append, balanced.closed, balanced'.closed]

theorem Balanced.not_matched {after : List Token} (balanced : Balanced inner) (offset : Nat) :
    ¬Matched (inner ++ .closing offset :: after) := by
  intro matched
  have early := matched (inner ++ [.closing offset]) after (by simp)
  have closed := balanced.closed
  rw [closings_append, openings_append, closings_closing, openings_closing] at early
  simp only [closings, openings, List.countP_nil] at early closed
  omega

theorem Balanced.list (balanced : Balanced inner) (start offset : Nat) :
    Balanced (.opening start :: inner ++ [.closing offset]) where
  matched := by
    intro before after split
    rcases before with _ | ⟨first, before⟩
    · exact Nat.le_refl _
    · have closed := balanced.closed
      rw [List.cons_append, List.cons_append, List.cons_eq_cons] at split
      obtain ⟨rfl, split⟩ := split
      rw [closings_opening, openings_opening]
      rcases List.append_eq_append_iff.mp split with ⟨more, rfl, last⟩ | ⟨more, rfl, _⟩
      · have few : closings more ≤ more.length := List.countP_le_length
        have length := congrArg List.length last
        rw [List.length_append, List.length_singleton] at length
        rw [closings_append, openings_append]
        omega
      · have inside := balanced.matched before more rfl
        omega
  closed := by
    rw [closings_append, openings_append, closings_opening, openings_opening, closings_closing,
      openings_closing, balanced.closed]
    exact (Nat.add_right_comm _ 1 0)

namespace SExpr

variable {exprs items : List SExpr} {stack : List (Nat × List SExpr)} {seen found : List Token}
  {error : ReadError}

theorem Spells.balanced (spells : Spells tokens exprs) : Balanced tokens := by
  have leaf {token : Token} {tokens : List Token} (opening : token.isOpening = false)
      (closing : token.isClosing = false) (later : Balanced tokens) :
      Balanced (token :: tokens) := by
    have alone : Balanced [token] := by
      refine ⟨matched_of_opens (List.forall_mem_singleton.mpr closing), ?_⟩
      simp [closings, openings, opening, closing]
    exact alone.append later
  induction spells with
  | nil => exact balanced_nil
  | atom _ ih | str _ ih | regex _ ih => exact leaf rfl rfl ih
  | @list start offset inner tokens items exprs _ _ inside rest =>
      simpa using (inside.list start offset).append rest

theorem Opened.matched (opened : Opened stack items seen) : Matched seen := by
  induction stack generalizing items seen with
  | nil => exact (Spells.balanced opened).matched
  | cons list stack ih =>
      obtain ⟨outer, inner, rfl, around, inside⟩ := opened
      exact (ih around).append ((matched_opening list.1).append inside.balanced.matched)

/-- The parenthesis that has no partner: the first one that closes nothing, or else the last one
that is not closed. -/
inductive Culprit (tokens : List Token) : ReadError → Prop
  | unmatched {before after : List Token} {offset : Nat}
      (split : tokens = before ++ .closing offset :: after) (balanced : Balanced before) :
      Culprit tokens ⟨.unmatchedParen, offset⟩
  | unclosed {before after : List Token} {start : Nat}
      (split : tokens = before ++ .opening start :: after) (matched : Matched before)
      (balanced : Balanced after) : Culprit tokens ⟨.unclosedParen, start⟩

theorem Opened.culprit (opened : Opened stack items seen)
    (failed : SExpr.assemble stack items found = .error error) : Culprit (seen ++ found) error := by
  fun_induction SExpr.assemble stack items found generalizing seen with
  | case1 items => cases failed
  | case2 start before stack items =>
      cases failed
      obtain ⟨outer, inner, rfl, around, inside⟩ := opened
      exact .unclosed (List.append_nil _) around.matched inside.balanced
  | case3 stack items start rest ih =>
      have inside : Opened ((start, items) :: stack) [] (seen ++ [.opening start]) :=
        ⟨seen, [], rfl, opened, .nil⟩
      simpa using ih inside failed
  | case4 items offset rest =>
      cases failed
      exact .unmatched rfl (Spells.balanced opened)
  | case5 start before stack items offset rest ih =>
      obtain ⟨outer, inner, rfl, around, inside⟩ := opened
      simpa using ih (around.add (inside.singleList start offset)) failed
  | case6 stack items text span rest ih =>
      simpa using ih (opened.add (.atom .nil)) failed
  | case7 stack items text span rest ih =>
      simpa using ih (opened.add (.str .nil)) failed
  | case8 stack items text span rest ih =>
      simpa using ih (opened.add (.regex .nil)) failed

theorem culprit_of_error (failed : assemble [] [] tokens = .error error) :
    Culprit tokens error := by
  have none : Opened [] [] [] := Spells.nil
  exact none.culprit failed

theorem Culprit.not_balanced (culprit : Culprit tokens error) : ¬Balanced tokens := by
  intro balanced
  cases culprit with
  | unmatched split inside => exact inside.not_matched _ (split ▸ balanced.matched)
  | @unclosed before after start split matched inside =>
      have closed := balanced.closed
      have before_le := matched.count_le
      rw [split, closings_append, openings_append, closings_opening, openings_opening,
        inside.closed] at closed
      omega

theorem assemble_accepts : (∃ exprs, assemble [] [] tokens = .ok exprs) ↔ Balanced tokens := by
  constructor
  · rintro ⟨exprs, assembled⟩
    exact (assemble_eq_ok.mp assembled).balanced
  · intro balanced
    cases assembled : assemble [] [] tokens with
    | ok exprs => exact ⟨exprs, rfl⟩
    | error error => exact absurd balanced (culprit_of_error assembled).not_balanced

theorem exists_culprit (unbalanced : ¬Balanced tokens) :
    ∃ error, assemble [] [] tokens = .error error ∧ Culprit tokens error := by
  cases assembled : assemble [] [] tokens with
  | ok exprs => exact absurd (assemble_accepts.mp ⟨exprs, assembled⟩) unbalanced
  | error error => exact ⟨error, rfl, culprit_of_error assembled⟩

theorem exists_unmatched (unmatched : ¬Matched tokens) : ∃ before offset after,
    tokens = before ++ .closing offset :: after ∧ Balanced before ∧
      assemble [] [] tokens = .error ⟨.unmatchedParen, offset⟩ := by
  obtain ⟨error, failed, culprit⟩ := exists_culprit fun balanced => unmatched balanced.matched
  cases culprit with
  | unmatched split balanced => exact ⟨_, _, _, split, balanced, failed⟩
  | @unclosed before after start split matched balanced =>
      have whole := matched.append ((matched_opening start).append balanced.matched)
      exact absurd (split ▸ whole) unmatched

theorem exists_unclosed (matched : Matched tokens) (unbalanced : ¬Balanced tokens) :
    ∃ before start after, tokens = before ++ .opening start :: after ∧ Balanced after ∧
      assemble [] [] tokens = .error ⟨.unclosedParen, start⟩ := by
  obtain ⟨error, failed, culprit⟩ := exists_culprit unbalanced
  cases culprit with
  | unmatched split balanced => exact absurd (split ▸ matched) (balanced.not_matched _)
  | unclosed split _ balanced => exact ⟨_, _, _, split, balanced, failed⟩

end SExpr

end SandboxPolicy
