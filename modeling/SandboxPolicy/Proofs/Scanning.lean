import SandboxPolicy.Proofs.Outcome
import SandboxPolicy.SExpr.Token

/-!
What the scanner gives for a text that is built from tokens, wherever the text begins: atoms end
at a blank or a parenthesis, quoted texts are decoded, and regular expressions are kept.
-/

namespace SandboxPolicy

def Token.bare : Token → Token
  | .opening _ => .opening 0
  | .closing _ => .closing 0
  | .atom text _ => .atom text .zero
  | .str text _ => .str text .zero
  | .regex text _ => .regex text .zero

structure IsAtom (text : List Char) : Prop where
  chars : ∀ c ∈ text, isAtomChar c = true
  begins : ∃ c rest, text = c :: rest ∧ isBlank c = false

/-- Characters between the marks of a regular expression: read from the left, each backslash has a
character behind it, and no quote stands without a backslash. -/
inductive IsBody : List Char → Prop
  | nil : IsBody []
  | plain {c : Char} {rest : List Char} (noQuote : c ≠ '"') (noBackslash : c ≠ '\\') :
      IsBody rest → IsBody (c :: rest)
  | escaped {c : Char} {rest : List Char} : IsBody rest → IsBody ('\\' :: c :: rest)

theorem IsAtom.concat {text : List Char} {c : Char} (isAtom : IsAtom text)
    (atomic : isAtomChar c = true) : IsAtom (text ++ [c]) := by
  obtain ⟨first, rest, rfl, solid⟩ := isAtom.begins
  refine ⟨fun d member => ?_, first, rest ++ [c], rfl, solid⟩
  rcases List.mem_append.mp member with early | last
  · exact isAtom.chars d early
  · exact List.mem_singleton.mp last ▸ atomic

theorem isAtom_hash : IsAtom ['#'] :=
  ⟨List.forall_mem_singleton.mpr (by decide), '#', [], rfl, by decide⟩

theorem IsBody.append {text more : List Char} (isBody : IsBody text) (isBody' : IsBody more) :
    IsBody (text ++ more) := by
  induction isBody with
  | nil => exact isBody'
  | plain noQuote noBackslash _ ih => exact .plain noQuote noBackslash ih
  | escaped _ ih => exact .escaped ih

def Token.Legible : Token → Prop
  | .atom text _ => IsAtom text.toList
  | .regex text _ => IsBody text.toList
  | _ => True

def Scan.Sane : Scan → Prop
  | .atom _ seen => IsAtom seen.reverse
  | .quoted _ true seen | .escape _ true seen => IsBody seen.reverse
  | _ => True

def EndsAtom (rest : List Char) : Prop := ∀ c ∈ rest.head?, c ∈ [' ', '\n', ')']

theorem not_isAtomChar_of_ends {c : Char} (ends : c ∈ [' ', '\n', ')']) :
    isAtomChar c = false ∧ c ≠ '"' ∧ c ≠ '|' := by
  simp only [List.mem_cons, List.not_mem_nil, or_false] at ends
  rcases ends with rfl | rfl | rfl <;> decide

def HasEscape (c : Char) : Prop := c = '"' ∨ c = '\\' ∨ c = '\n' ∨ c = '\t'

instance : DecidablePred HasEscape := fun _ => inferInstanceAs (Decidable (_ ∨ _))

/-- The characters that are read back for a quoted one. The reader keeps an escape that it does
not know as it is written. -/
def rereadChar (c : Char) : List Char := if HasEscape c then [c] else quoteChar c

theorem hexDigits_plain (value : Nat) : ∀ c ∈ hexDigits value, c ≠ '"' ∧ c ≠ '\\' :=
  forall_mem_hexDigits (by decide) value

theorem quoteChar_other {c : Char} (other : ¬HasEscape c) : quoteChar c = [c] ∨
    ∃ sign digits, quoteChar c = '\\' :: sign :: digits ∧ ¬HasEscape sign ∧ sign ≠ 'n' ∧
      sign ≠ 't' ∧ ∀ d ∈ digits, d ≠ '"' ∧ d ≠ '\\' := by
  simp only [HasEscape, not_or] at other
  obtain ⟨noQuote, noBackslash, noNewline, noTab⟩ := other
  simp only [quoteChar, noQuote, noBackslash, noNewline, noTab, or_self, if_false]
  by_cases zero : c = '\x00'
  · rw [if_pos zero]
    exact .inr ⟨'0', [], rfl, by simp [HasEscape], by decide, by decide, by simp⟩
  by_cases isReturn : c = '\r'
  · rw [if_neg zero, if_pos isReturn]
    exact .inr ⟨'r', [], rfl, by simp [HasEscape], by decide, by decide, by simp⟩
  rw [if_neg zero, if_neg isReturn]
  by_cases unseen : isGraphemeExtending c = true ∨ ¬isPrintable c = true
  · rw [if_pos unseen]
    refine .inr ⟨'u', '\x7b' :: hexDigits c.toNat ++ ['\x7d'], by simp, by simp [HasEscape],
      by decide, by decide, fun d member => ?_⟩
    simp only [List.cons_append, List.mem_cons, List.mem_append, List.not_mem_nil, or_false]
      at member
    rcases member with rfl | digit | rfl
    · decide
    · exact hexDigits_plain _ d digit
    · decide
  · rw [if_neg unseen]
    exact .inl rfl

namespace Scan

variable {scan next : Scan} {offset start : Nat} {c : Char} {text rest seen : List Char}
  {tokens more completed : List Token}

theorem run_tokens (scan : Scan) (offset : Nat) (tokens : List Token) (text : List Char) :
    scan.run offset tokens text = (scan.run offset [] text).map (tokens.reverse ++ ·) := by
  induction text generalizing scan offset tokens with
  | nil =>
      simp only [run]
      cases scan.finish offset <;> rfl
  | cons c rest ih =>
      simp only [run]
      cases scan.step offset c with
      | error error => rfl
      | ok result =>
          change result.1.run _ (result.2.reverse ++ tokens) rest =
            (result.1.run _ (result.2.reverse ++ []) rest).map _
          rw [ih, ih _ _ (result.2.reverse ++ [])]
          cases result.1.run (offset + c.utf8Size) [] rest with
          | error error => rfl
          | ok found => simp [Except.map]

theorem run_cons (stepped : scan.step offset c = .ok (next, completed)) (rest : List Char) :
    scan.run offset [] (c :: rest) =
      (next.run (offset + c.utf8Size) [] rest).map (completed ++ ·) := by
  have begun : scan.run offset [] (c :: rest) =
      next.run (offset + c.utf8Size) (completed.reverse ++ []) rest := by
    rw [run, stepped]
    rfl
  rw [begun, run_tokens]
  simp

/-- From the scan on, the text is read as these tokens, wherever it stands. -/
def Yields (scan : Scan) (text : List Char) (tokens : List Token) : Prop :=
  ∀ offset, ∃ found, scan.run offset [] text = .ok found ∧ found.map Token.bare = tokens

theorem Yields.end : between.Yields [] [] := fun _ => ⟨[], rfl, rfl⟩

theorem Yields.step (tokens : List Token) (stepped : ∀ offset, ∃ next completed,
      scan.step offset c = .ok (next, completed) ∧ completed.map Token.bare = tokens ∧
        next.Yields rest more) : scan.Yields (c :: rest) (tokens ++ more) := by
  intro offset
  obtain ⟨next, completed, first, bare, yields⟩ := stepped offset
  obtain ⟨found, later, bare'⟩ := yields (offset + c.utf8Size)
  refine ⟨completed ++ found, ?_, by rw [List.map_append, bare, bare']⟩
  rw [run_cons first, later]
  rfl

theorem Yields.silent (stepped : ∀ offset, scan.step offset c = .ok (next, []))
    (yields : next.Yields rest tokens) : scan.Yields (c :: rest) tokens :=
  .step [] fun offset => ⟨next, [], stepped offset, rfl, yields⟩

theorem Yields.blank (blank : isBlank c = true) (yields : between.Yields rest tokens) :
    between.Yields (c :: rest) tokens :=
  yields.silent fun offset => by simp [Scan.step, begin, blank]

theorem Yields.opening (yields : between.Yields rest tokens) :
    between.Yields ('(' :: rest) (.opening 0 :: tokens) :=
  .step [.opening 0] fun offset => ⟨between, [.opening offset], rfl, rfl, yields⟩

theorem Yields.closing (yields : between.Yields rest tokens) :
    between.Yields (')' :: rest) (.closing 0 :: tokens) :=
  .step [.closing 0] fun offset => ⟨between, [.closing offset], rfl, rfl, yields⟩

/-! Atoms. -/

theorem begin_of_isAtomChar (atomic : isAtomChar c = true) (solid : isBlank c = false)
    (offset : Nat) :
    begin offset c = .ok (if c = '#' then .hash offset else .atom offset [c], []) := by
  have other {d : Char} (sign : isAtomChar d = false) : c ≠ d := by
    rintro rfl
    rw [atomic] at sign
    cases sign
  simp only [begin, solid, Bool.false_eq_true, if_false, other (d := ';') (by decide),
    other (d := '(') (by decide), other (d := ')') (by decide), other (d := '"') (by decide),
    atomic, if_true]
  split <;> rfl

theorem run_atom_end (notAtom : isAtomChar c = false) (rest : List Char) :
    (Scan.atom start seen).run offset [] (c :: rest) =
      (between.run offset [] (c :: rest)).map
        (.atom (String.ofList seen.reverse) ⟨start, offset⟩ :: ·) := by
  cases begun : begin offset c with
  | error error => simp [run, Scan.step, inAtom, notAtom, begun, bind, Except.bind, Except.map]
  | ok result =>
      obtain ⟨next, completed⟩ := result
      have stepped : between.step offset c = .ok (next, completed) := begun
      have stepped' : (Scan.atom start seen).step offset c =
          .ok (next, .atom (String.ofList seen.reverse) ⟨start, offset⟩ :: completed) := by
        simp [Scan.step, inAtom, notAtom, begun, bind, Except.bind, pure, Except.pure]
      rw [run_cons stepped, run_cons stepped']
      cases next.run (offset + c.utf8Size) [] rest <;> rfl

theorem Yields.atomEnd (seen : List Char) (ends : EndsAtom rest)
    (yields : between.Yields rest tokens) :
    (Scan.atom start seen).Yields rest (.atom (String.ofList seen.reverse) .zero :: tokens) := by
  intro offset
  obtain ⟨found, scanned, bare⟩ := yields offset
  refine ⟨.atom (String.ofList seen.reverse) ⟨start, offset⟩ :: found, ?_,
    by simp [bare, Token.bare]⟩
  cases rest with
  | nil =>
      cases scanned
      rfl
  | cons c rest => rw [run_atom_end (not_isAtomChar_of_ends (ends c rfl)).1, scanned]; rfl

theorem Yields.atomChars (text : List Char) (chars : ∀ c ∈ text, isAtomChar c = true)
    (yields : (Scan.atom start (text.reverse ++ seen)).Yields rest tokens) :
    (Scan.atom start seen).Yields (text ++ rest) tokens := by
  induction text generalizing seen with
  | nil => exact yields
  | cons c text ih =>
      have atomic := chars c List.mem_cons_self
      have longer : (Scan.atom start (text.reverse ++ c :: seen)).Yields rest tokens := by
        simpa using yields
      have later := ih (fun d member => chars d (List.mem_cons_of_mem _ member)) longer
      exact later.silent fun offset => by simp [Scan.step, inAtom, atomic]

theorem Yields.hash (other : ∀ c ∈ rest.head?, c ≠ '"' ∧ c ≠ '|')
    (yields : (Scan.atom start ['#']).Yields rest tokens) :
    (Scan.hash start).Yields rest tokens := by
  intro offset
  obtain ⟨found, scanned, bare⟩ := yields offset
  refine ⟨found, ?_, bare⟩
  rw [← scanned]
  cases rest with
  | nil => rfl
  | cons c rest =>
      obtain ⟨noQuote, noBar⟩ := other c rfl
      have same : (Scan.hash start).step offset c = (Scan.atom start ['#']).step offset c := by
        simp [Scan.step, noQuote, noBar]
      rw [run, run, same]

theorem Yields.atom (isAtom : IsAtom text) (ends : EndsAtom rest)
    (yields : between.Yields rest tokens) :
    between.Yields (text ++ rest) (.atom (String.ofList text) .zero :: tokens) := by
  obtain ⟨c, others, rfl, solid⟩ := isAtom.begins
  have chars : ∀ d ∈ others, isAtomChar d = true :=
    fun d member => isAtom.chars d (List.mem_cons_of_mem _ member)
  have continued (start : Nat) : (Scan.atom start [c]).Yields (others ++ rest)
      (.atom (String.ofList (c :: others)) .zero :: tokens) :=
    .atomChars others chars (by simpa using yields.atomEnd (others.reverse ++ [c]) ends)
  have begins := begin_of_isAtomChar (isAtom.chars c List.mem_cons_self) solid
  refine .step [] fun offset => ⟨_, _, begins offset, rfl, ?_⟩
  split
  next isHash =>
    refine .hash (fun d first => ?_) (isHash ▸ continued offset)
    cases others with
    | nil => exact (not_isAtomChar_of_ends (ends d first)).2
    | cons e others =>
        obtain rfl : e = d := by simpa using first
        have atomic := chars e List.mem_cons_self
        constructor
        · rintro rfl
          exact absurd atomic (by decide)
        · rintro rfl
          exact absurd atomic (by decide)
  next => exact continued offset

/-! Quoted texts and regular expressions. -/

theorem Yields.plain {verbatim : Bool} (text : List Char)
    (plain : ∀ c ∈ text, c ≠ '"' ∧ c ≠ '\\')
    (yields : (Scan.quoted start verbatim (text.reverse ++ seen)).Yields rest tokens) :
    (Scan.quoted start verbatim seen).Yields (text ++ rest) tokens := by
  induction text generalizing seen with
  | nil => exact yields
  | cons c text ih =>
      obtain ⟨noQuote, noBackslash⟩ := plain c List.mem_cons_self
      have longer : (Scan.quoted start verbatim (text.reverse ++ c :: seen)).Yields rest
          tokens := by
        simpa using yields
      have later := ih (fun d member => plain d (List.mem_cons_of_mem _ member)) longer
      exact later.silent fun offset => by simp [Scan.step, noQuote, noBackslash]

theorem Yields.escaped {verbatim : Bool}
    (yields : (Scan.quoted start verbatim (unescape verbatim c seen)).Yields rest tokens) :
    (Scan.quoted start verbatim seen).Yields ('\\' :: c :: rest) tokens := by
  have opened : (Scan.escape start verbatim seen).Yields (c :: rest) tokens :=
    yields.silent fun _ => rfl
  exact opened.silent fun _ => rfl

theorem Yields.close (start : Nat) (verbatim : Bool) (seen : List Char)
    (yields : between.Yields rest tokens) :
    (Scan.quoted start verbatim seen).Yields ('"' :: rest)
      (quotedToken verbatim seen .zero :: tokens) := by
  refine .step [quotedToken verbatim seen .zero] fun offset =>
    ⟨between, [quotedToken verbatim seen ⟨start, offset + 1⟩], rfl, ?_, yields⟩
  cases verbatim <;> rfl

theorem Yields.quoteChar (c : Char)
    (yields : (Scan.quoted start false ((rereadChar c).reverse ++ seen)).Yields rest tokens) :
    (Scan.quoted start false seen).Yields (quoteChar c ++ rest) tokens := by
  rw [rereadChar] at yields
  by_cases known : HasEscape c
  · rw [if_pos known] at yields
    rcases known with rfl | rfl | rfl | rfl <;> exact .escaped yields
  · rw [if_neg known] at yields
    rcases quoteChar_other known with same | ⟨sign, digits, written, unknown, noN, noT, plain⟩
    · rw [same] at yields ⊢
      refine .plain [c] (fun d member => ?_) yields
      rw [List.mem_singleton.mp member]
      exact ⟨fun quote => known (.inl quote), fun backslash => known (.inr (.inl backslash))⟩
    · rw [written] at yields ⊢
      have kept : unescape false sign seen = sign :: '\\' :: seen := by
        have noQuote : sign ≠ '"' := fun same => unknown (.inl same)
        have noBackslash : sign ≠ '\\' := fun same => unknown (.inr (.inl same))
        simp [unescape, noQuote, noBackslash, noN, noT]
      refine .escaped (.plain digits plain ?_)
      simpa [kept] using yields

theorem Yields.quotedBody (text : List Char)
    (yields : (Scan.quoted start false ((text.flatMap rereadChar).reverse ++ seen)).Yields rest
      tokens) :
    (Scan.quoted start false seen).Yields (text.flatMap SandboxPolicy.quoteChar ++ rest)
      tokens := by
  induction text generalizing seen with
  | nil => exact yields
  | cons c text ih =>
      rw [List.flatMap_cons, List.append_assoc]
      exact .quoteChar c (ih (by simpa using yields))

theorem Yields.quotedChars (text : List Char) (yields : between.Yields rest tokens) :
    between.Yields (quotedChars text ++ rest)
      (.str (String.ofList (text.flatMap rereadChar)) .zero :: tokens) := by
  have opened (start : Nat) : (Scan.quoted start false []).Yields
      (text.flatMap SandboxPolicy.quoteChar ++ '"' :: rest)
      (.str (String.ofList (text.flatMap rereadChar)) .zero :: tokens) := by
    have closed := yields.close start false ((text.flatMap rereadChar).reverse)
    refine .quotedBody text ?_
    simpa [quotedToken] using closed
  have split : SandboxPolicy.quotedChars text ++ rest =
      '"' :: (text.flatMap SandboxPolicy.quoteChar ++ '"' :: rest) := by
    simp [SandboxPolicy.quotedChars]
  rw [split]
  exact .step [] fun offset => ⟨.quoted offset false [], [], rfl, rfl, opened offset⟩

theorem Yields.body (isBody : IsBody text)
    (yields : (Scan.quoted start true (text.reverse ++ seen)).Yields rest tokens) :
    (Scan.quoted start true seen).Yields (text ++ rest) tokens := by
  induction isBody generalizing seen with
  | nil => exact yields
  | @plain c text noQuote noBackslash _ ih =>
      exact .plain [c] (by simp [noQuote, noBackslash]) (ih (by simpa using yields))
  | @escaped c text _ ih => exact .escaped (ih (by simpa [unescape] using yields))

theorem Yields.regex (isBody : IsBody text) (yields : between.Yields rest tokens) :
    between.Yields ('#' :: '"' :: text ++ '"' :: rest)
      (.regex (String.ofList text) .zero :: tokens) := by
  have opened (start : Nat) : (Scan.quoted start true []).Yields (text ++ '"' :: rest)
      (.regex (String.ofList text) .zero :: tokens) := by
    have closed := yields.close start true text.reverse
    refine .body isBody ?_
    simpa [quotedToken] using closed
  have hashed (start : Nat) : (Scan.hash start).Yields ('"' :: (text ++ '"' :: rest))
      (.regex (String.ofList text) .zero :: tokens) :=
    (opened start).silent fun _ => rfl
  exact .step [] fun offset => ⟨.hash offset, [], rfl, rfl, hashed offset⟩

/-! What the scanner finds in any text can be written again. -/

def Kept (next : Scan) (completed : List Token) : Prop :=
  next.Sane ∧ ∀ token ∈ completed, token.Legible

theorem Sane.kept (sane : next.Sane) : next.Kept [] := ⟨sane, by simp⟩

theorem quoted_sane {verbatim : Bool} :
    (Scan.quoted start verbatim seen).Sane ↔ (verbatim = true → IsBody seen.reverse) := by
  cases verbatim <;> simp [Sane]

theorem escape_sane {verbatim : Bool} :
    (Scan.escape start verbatim seen).Sane ↔ (verbatim = true → IsBody seen.reverse) := by
  cases verbatim <;> simp [Sane]

theorem quotedToken_legible {verbatim : Bool} {span : Span}
    (isBody : verbatim = true → IsBody seen.reverse) :
    (quotedToken verbatim seen span).Legible := by
  cases verbatim with
  | false => trivial
  | true => simpa [quotedToken, Token.Legible] using isBody

theorem begin_kept (begun : begin offset c = .ok (next, completed)) : next.Kept completed := by
  rw [begin] at begun
  by_cases blank : isBlank c = true
  · rw [if_pos blank] at begun
    cases begun
    exact Sane.kept trivial
  rw [if_neg blank] at begun
  -- Of the signs, only a number sign is kept, and the scan knows it by its kind.
  split at begun
  next =>
    cases begun
    exact Sane.kept trivial
  split at begun
  next =>
    cases begun
    exact ⟨trivial, by simp [Token.Legible]⟩
  split at begun
  next =>
    cases begun
    exact ⟨trivial, by simp [Token.Legible]⟩
  split at begun
  next =>
    cases begun
    exact Sane.kept trivial
  split at begun
  next =>
    cases begun
    exact Sane.kept trivial
  split at begun
  next atomic =>
    cases begun
    have isAtom : IsAtom [c] := ⟨by simpa using atomic, c, [], rfl, by simpa using blank⟩
    exact Sane.kept isAtom
  next => cases begun

theorem inAtom_kept (isAtom : IsAtom seen.reverse)
    (stepped : inAtom start seen offset c = .ok (next, completed)) : next.Kept completed := by
  rw [inAtom] at stepped
  split at stepped
  next atomic =>
    cases stepped
    have longer : IsAtom (c :: seen).reverse := by simpa using isAtom.concat atomic
    exact Sane.kept longer
  next =>
    obtain ⟨⟨next', others⟩, begun, done⟩ := Outcome.bind_eq_ok.mp stepped
    cases done
    obtain ⟨sane, legible⟩ := begin_kept begun
    have first : (Token.atom (String.ofList seen.reverse) ⟨start, offset⟩).Legible := by
      simpa [Token.Legible] using isAtom
    exact ⟨sane, List.forall_mem_cons.mpr ⟨first, legible⟩⟩

theorem quoted_kept {verbatim : Bool} (sane : (Scan.quoted start verbatim seen).Sane)
    (stepped : (Scan.quoted start verbatim seen).step offset c = .ok (next, completed)) :
    next.Kept completed := by
  rw [quoted_sane] at sane
  simp only [step] at stepped
  split at stepped
  next =>
    cases stepped
    exact ⟨trivial, List.forall_mem_singleton.mpr (quotedToken_legible sane)⟩
  next noQuote =>
    split at stepped
    next =>
      cases stepped
      exact Sane.kept (escape_sane.mpr sane)
    next noBackslash =>
      cases stepped
      refine Sane.kept (quoted_sane.mpr fun isRegex => ?_)
      rw [List.reverse_cons]
      exact (sane isRegex).append (.plain noQuote noBackslash .nil)

theorem unescape_sane {verbatim : Bool} (start : Nat) (c : Char)
    (isBody : verbatim = true → IsBody seen.reverse) :
    (Scan.quoted start verbatim (unescape verbatim c seen)).Sane := by
  refine quoted_sane.mpr fun isRegex => ?_
  have longer : IsBody (seen.reverse ++ ['\\', c]) := (isBody isRegex).append (.escaped .nil)
  simpa [unescape, isRegex] using longer

theorem inBlock_sane (start around : Nat) (c : Char) : (inBlock start around c).Sane := by
  rw [inBlock]
  split
  next => trivial
  next =>
    split
    next => trivial
    next => trivial

theorem step_kept (sane : scan.Sane) (stepped : scan.step offset c = .ok (next, completed)) :
    next.Kept completed := by
  cases scan with
  | between => exact begin_kept stepped
  | lineComment =>
      cases stepped
      exact Sane.kept (by split <;> trivial)
  | hash start =>
      simp only [step] at stepped
      split at stepped
      next =>
        cases stepped
        exact Sane.kept .nil
      next =>
        split at stepped
        next =>
          cases stepped
          exact Sane.kept trivial
        next =>
          have isAtom : IsAtom ['#'].reverse := isAtom_hash
          exact inAtom_kept isAtom stepped
  | atom start seen => exact inAtom_kept sane stepped
  | quoted start verbatim seen => exact quoted_kept sane stepped
  | escape start verbatim seen =>
      cases stepped
      exact Sane.kept (unescape_sane start c (escape_sane.mp sane))
  | block start around =>
      cases stepped
      exact Sane.kept (inBlock_sane start around c)
  | blockBar start around =>
      simp only [step] at stepped
      split at stepped
      next =>
        cases around with
        | zero =>
            cases stepped
            exact Sane.kept trivial
        | succ around =>
            cases stepped
            exact Sane.kept trivial
      next =>
        cases stepped
        exact Sane.kept (inBlock_sane start around c)
  | blockHash start around =>
      simp only [step] at stepped
      split at stepped
      next =>
        cases stepped
        exact Sane.kept trivial
      next =>
        cases stepped
        exact Sane.kept (inBlock_sane start around c)

theorem finish_legible (sane : scan.Sane) (finished : scan.finish offset = .ok tokens) :
    ∀ token ∈ tokens, token.Legible := by
  cases scan with
  | between | lineComment =>
      cases finished
      simp
  | hash start =>
      cases finished
      simpa [Token.Legible] using isAtom_hash
  | atom start seen =>
      have isAtom : IsAtom seen.reverse := sane
      cases finished
      simpa [Token.Legible] using isAtom
  | quoted | escape | block | blockBar | blockHash => cases finished

theorem run_legible (sane : scan.Sane) (scanned : scan.run offset [] text = .ok tokens) :
    ∀ token ∈ tokens, token.Legible := by
  induction text generalizing scan offset tokens with
  | nil =>
      obtain ⟨last, finished, done⟩ := Outcome.bind_eq_ok.mp scanned
      cases done
      exact finish_legible sane finished
  | cons c text ih =>
      obtain ⟨⟨next, completed⟩, stepped, _⟩ := Outcome.bind_eq_ok.mp scanned
      obtain ⟨sane', legible⟩ := step_kept sane stepped
      rw [run_cons stepped] at scanned
      obtain ⟨found, later, rfl⟩ := Outcome.map_eq_ok.mp scanned
      intro token member
      rcases List.mem_append.mp member with early | late
      · exact legible token early
      · exact ih sane' later token late

end Scan

theorem scanTokens_legible {text : List Char} {tokens : List Token}
    (scanned : scanTokens text = .ok tokens) : ∀ token ∈ tokens, token.Legible :=
  have sane : Scan.between.Sane := trivial
  Scan.run_legible sane scanned

end SandboxPolicy
