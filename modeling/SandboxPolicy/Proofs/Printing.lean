import Mathlib
import SandboxPolicy.Proofs.Scanning
import SandboxPolicy.Proofs.Spelling

/-!
What is read from the printed form of an expression. The expressions of a source hold its tokens in
order, the printed form of an expression is scanned as its own tokens, and tokens that spell an
expression are put together as that expression. Only a string may come back changed: the printer
escapes more characters than the reader knows.
-/

namespace SandboxPolicy

def IsEchoed (c : Char) : Prop :=
  quoteChar c ∈ [[c], ['\\', '"'], ['\\', '\\'], ['\\', 'n'], ['\\', 't']]

instance : DecidablePred IsEchoed := fun c =>
  inferInstanceAs (Decidable (quoteChar c ∈ [[c], ['\\', '"'], ['\\', '\\'], ['\\', 'n'], _]))

theorem rereadChar_eq_iff {c : Char} : rereadChar c = [c] ↔ IsEchoed c := by
  by_cases known : HasEscape c
  · rw [rereadChar, if_pos known]
    rcases known with rfl | rfl | rfl | rfl <;> decide
  · rw [rereadChar, if_neg known, IsEchoed]
    rcases quoteChar_other known with same | ⟨sign, digits, written, unknown, noN, noT, _⟩
    · simp [same]
    · have noQuote : sign ≠ '"' := fun same => unknown (.inl same)
      have noBackslash : sign ≠ '\\' := fun same => unknown (.inr (.inl same))
      simp [written, noN, noT, noQuote, noBackslash]

theorem rereadChar_cases (c : Char) : rereadChar c = [c] ∨ 2 ≤ (rereadChar c).length := by
  by_cases known : HasEscape c
  · exact .inl (if_pos known)
  · rw [rereadChar, if_neg known]
    rcases quoteChar_other known with same | ⟨sign, digits, written, _⟩
    · exact .inl same
    · exact .inr (by simp [written])

theorem length_le_reread (text : List Char) : text.length ≤ (text.flatMap rereadChar).length := by
  induction text with
  | nil => exact Nat.le_refl 0
  | cons c rest ih =>
      rw [List.flatMap_cons, List.length_append, List.length_cons]
      rcases rereadChar_cases c with same | long
      · rw [same, List.length_singleton]
        omega
      · omega

theorem flatMap_rereadChar_eq_iff {text : List Char} :
    text.flatMap rereadChar = text ↔ ∀ c ∈ text, IsEchoed c := by
  induction text with
  | nil => simp
  | cons c rest ih =>
      rw [List.flatMap_cons, List.forall_mem_cons, ← ih, ← rereadChar_eq_iff]
      rcases rereadChar_cases c with same | long
      · simp [same]
      · -- One character too many here leaves one too few for the rest, which never gets shorter.
        have grown := length_le_reread rest
        constructor
        · intro back
          have lengths := congrArg List.length back
          rw [List.length_append, List.length_cons] at lengths
          omega
        · rintro ⟨same, _⟩
          rw [same, List.length_singleton] at long
          omega

def rereadText (text : String) : String := String.ofList (text.toList.flatMap rereadChar)

theorem rereadText_eq_iff {text : String} :
    rereadText text = text ↔ ∀ c ∈ text.toList, IsEchoed c := by
  rw [← flatMap_rereadChar_eq_iff, ← String.toList_inj, rereadText, String.toList_ofList]

theorem Token.bare_legible {token : Token} : token.bare.Legible ↔ token.Legible := by
  cases token <;> rfl

theorem Token.bare_eq_opening {token : Token} :
    token.bare = .opening 0 ↔ ∃ offset, token = .opening offset := by
  cases token <;> simp [bare]

theorem Token.bare_eq_closing {token : Token} :
    token.bare = .closing 0 ↔ ∃ offset, token = .closing offset := by
  cases token <;> simp [bare]

theorem Token.bare_eq_atom {token : Token} {text : String} :
    token.bare = .atom text .zero ↔ ∃ span, token = .atom text span := by
  cases token <;> simp [bare]

theorem Token.bare_eq_str {token : Token} {text : String} :
    token.bare = .str text .zero ↔ ∃ span, token = .str text span := by
  cases token <;> simp [bare]

theorem Token.bare_eq_regex {token : Token} {text : String} :
    token.bare = .regex text .zero ↔ ∃ span, token = .regex text span := by
  cases token <;> simp [bare]

namespace SExpr

variable {expr : SExpr} {exprs items : List SExpr} {found : List Token}
  {reading : String → String}

mutual

/-- The expression without its places in the text, and with its strings as they are read. -/
def readAs (reading : String → String) : SExpr → SExpr
  | .atom text _ => .atom text .zero
  | .str text _ => .str (reading text) .zero
  | .regex text _ => .regex text .zero
  | .list items _ => .list (readItemsAs reading items) .zero

def readItemsAs (reading : String → String) : List SExpr → List SExpr
  | [] => []
  | item :: rest => item.readAs reading :: readItemsAs reading rest

end

def bare (expr : SExpr) : SExpr := expr.readAs id

def reread (expr : SExpr) : SExpr := expr.readAs rereadText

mutual

def tokens : SExpr → List Token
  | .atom text _ => [.atom text .zero]
  | .str text _ => [.str text .zero]
  | .regex text _ => [.regex text .zero]
  | .list items _ => .opening 0 :: itemTokens items ++ [.closing 0]

def itemTokens : List SExpr → List Token
  | [] => []
  | item :: rest => item.tokens ++ itemTokens rest

end

mutual

theorem bare_readAs : (expr : SExpr) → (expr.readAs reading).bare = expr.readAs reading
  | .atom _ _ | .str _ _ | .regex _ _ => rfl
  | .list items _ => by
      have inside := bare_readItemsAs items
      rw [bare, readAs, readAs, inside]

theorem bare_readItemsAs : (items : List SExpr) →
    readItemsAs id (readItemsAs reading items) = readItemsAs reading items
  | [] => rfl
  | item :: rest => by
      have first := bare_readAs item
      rw [bare] at first
      rw [readItemsAs, readItemsAs, first, bare_readItemsAs rest]

end

theorem readItemsAs_eq_map (items : List SExpr) :
    readItemsAs reading items = items.map (readAs reading) := by
  induction items with
  | nil => rfl
  | cons item rest ih => rw [readItemsAs, ih, List.map_cons]

theorem itemTokens_append (items others : List SExpr) :
    itemTokens (items ++ others) = itemTokens items ++ itemTokens others := by
  induction items with
  | nil => rfl
  | cons item rest ih => rw [List.cons_append, itemTokens, itemTokens, ih, List.append_assoc]

theorem tokens_subset (member : expr ∈ items) : expr.tokens ⊆ itemTokens items := by
  obtain ⟨before, after, rfl⟩ := List.append_of_mem member
  rw [itemTokens_append, itemTokens]
  exact List.subset_append_of_subset_right _ (List.subset_append_left _ _)

/-! An expression in its printed form. -/

def Legible (expr : SExpr) : Prop := ∀ token ∈ expr.tokens, token.Legible

theorem Legible.of_mem {span : Span} (legible : (SExpr.list items span).Legible)
    (member : expr ∈ items) : expr.Legible := fun token spelled =>
  legible token (List.mem_cons_of_mem _ (List.mem_append_left _ (tokens_subset member spelled)))

def Echoes (expr : SExpr) : Prop :=
  ∀ text, .str text .zero ∈ expr.tokens → ∀ c ∈ text.toList, IsEchoed c

mutual

theorem readAs_eq_bare_iff : (expr : SExpr) →
    (expr.readAs reading = expr.bare ↔ ∀ text, .str text .zero ∈ expr.tokens → reading text = text)
  | .atom _ _ | .regex _ _ => by simp [readAs, bare, tokens]
  | .str _ _ => by simp [readAs, bare, tokens]
  | .list items _ => by
      have inside := readItemsAs_eq_bare_iff items
      simp only [bare, readAs, tokens, List.cons_append, List.mem_cons, List.mem_append,
        List.not_mem_nil, or_false, reduceCtorEq, false_or, list.injEq, and_true, inside]

theorem readItemsAs_eq_bare_iff : (items : List SExpr) →
    (readItemsAs reading items = readItemsAs id items ↔
      ∀ text, .str text .zero ∈ itemTokens items → reading text = text)
  | [] => by simp [readItemsAs, itemTokens]
  | item :: rest => by
      have first := readAs_eq_bare_iff item
      have others := readItemsAs_eq_bare_iff rest
      rw [bare] at first
      simp only [readItemsAs, itemTokens, List.cons.injEq, List.mem_append, first, others,
        or_imp, forall_and]

end

theorem reread_eq_bare_iff : expr.reread = expr.bare ↔ expr.Echoes := by
  rw [reread, readAs_eq_bare_iff]
  exact forall₂_congr fun text _ => rereadText_eq_iff

mutual

/-- The printed expression is scanned as the tokens of the expression that is read back, before
any text that ends an atom. -/
theorem yields_print {rest : List Char} {more : List Token} : (expr : SExpr) →
    expr.Legible → EndsAtom rest → Scan.between.Yields rest more →
    Scan.between.Yields (expr.print ++ rest) (expr.reread.tokens ++ more)
  | .atom text _, legible, ends, yields => by
      have isAtom : IsAtom text.toList := legible _ (List.mem_singleton_self _)
      simpa [print, reread, readAs, tokens] using yields.atom isAtom ends
  | .str text _, _, _, yields => yields.quotedChars text.toList
  | .regex text _, legible, _, yields => by
      have isBody : IsBody text.toList := legible _ (List.mem_singleton_self _)
      simpa [print, reread, readAs, tokens] using yields.regex isBody
  | .list items _, legible, _, yields => by
      have inside : ∀ token ∈ itemTokens items, token.Legible := fun token member =>
        legible token (List.mem_cons_of_mem _ (List.mem_append_left _ member))
      have closed : EndsAtom (')' :: rest) := by simp [EndsAtom]
      have printed := yields_printItems items inside closed yields.closing
      simpa [print, reread, readAs, tokens] using printed.opening

theorem yields_printItems {rest : List Char} {more : List Token} : (items : List SExpr) →
    (∀ token ∈ itemTokens items, token.Legible) → EndsAtom rest →
    Scan.between.Yields rest more →
    Scan.between.Yields (printItems items ++ rest)
      (itemTokens (readItemsAs rereadText items) ++ more)
  | [], _, _, yields => yields
  | [item], legible, ends, yields => by
      have alone : item.Legible := fun token member =>
        legible token (List.mem_append_left _ member)
      simpa [printItems, readItemsAs, itemTokens, reread] using yields_print item alone ends yields
  | item :: next :: others, legible, ends, yields => by
      have first : item.Legible := fun token member =>
        legible token (List.mem_append_left _ member)
      have later := yields_printItems (next :: others)
        (fun token member => legible token (List.mem_append_right _ member)) ends yields
      have apart : EndsAtom (' ' :: (printItems (next :: others) ++ rest)) := by simp [EndsAtom]
      have printed := yields_print item first apart (later.blank (by decide))
      simpa [printItems, readItemsAs, itemTokens, reread] using printed

end

/-! Expressions and their tokens. -/

theorem Spells.itemTokens_eq (spells : Spells found exprs) :
    itemTokens exprs = found.map Token.bare := by
  induction spells with
  | nil => rfl
  | atom _ ih | str _ ih | regex _ ih => simp [itemTokens, tokens, Token.bare, ih]
  | list _ _ inside rest => simp [itemTokens, tokens, Token.bare, inside, rest]

mutual

theorem assemble_tokens {more : List Token} : (expr : SExpr) → (found : List Token) →
    found.map Token.bare = expr.tokens ++ more →
    ∃ again later, again.bare = expr.bare ∧ later.map Token.bare = more ∧
      ∀ stack items, assemble stack items found = assemble stack (again :: items) later
  | .atom text _, found, spelled => by
      obtain ⟨token, later, rfl, bare, after⟩ := List.map_eq_cons_iff.mp spelled
      obtain ⟨span, rfl⟩ := Token.bare_eq_atom.mp bare
      exact ⟨.atom text span, later, rfl, after, fun stack items => by rw [assemble]⟩
  | .str text _, found, spelled => by
      obtain ⟨token, later, rfl, bare, after⟩ := List.map_eq_cons_iff.mp spelled
      obtain ⟨span, rfl⟩ := Token.bare_eq_str.mp bare
      exact ⟨.str text span, later, rfl, after, fun stack items => by rw [assemble]⟩
  | .regex text _, found, spelled => by
      obtain ⟨token, later, rfl, bare, after⟩ := List.map_eq_cons_iff.mp spelled
      obtain ⟨span, rfl⟩ := Token.bare_eq_regex.mp bare
      exact ⟨.regex text span, later, rfl, after, fun stack items => by rw [assemble]⟩
  | .list inner _, found, spelled => by
      rw [tokens, List.cons_append, List.cons_append, List.append_assoc] at spelled
      obtain ⟨token, middle, rfl, opened, inside⟩ := List.map_eq_cons_iff.mp spelled
      obtain ⟨start, rfl⟩ := Token.bare_eq_opening.mp opened
      -- The items are put together on a stack of their own, and the closing parenthesis ends it.
      obtain ⟨again, behind, same, closed, all⟩ := assemble_itemTokens inner middle inside
      obtain ⟨token, later, rfl, closed, after⟩ := List.map_eq_cons_iff.mp closed
      obtain ⟨offset, rfl⟩ := Token.bare_eq_closing.mp closed
      refine ⟨.list again ⟨start, offset + 1⟩, later, ?_, after, fun stack items => ?_⟩
      · rw [bare, bare, readAs, readAs, same]
      · rw [assemble, all, List.append_nil, assemble, List.reverse_reverse]

theorem assemble_itemTokens {more : List Token} : (inner : List SExpr) → (found : List Token) →
    found.map Token.bare = itemTokens inner ++ more →
    ∃ again later, readItemsAs id again = readItemsAs id inner ∧ later.map Token.bare = more ∧
      ∀ stack items, assemble stack items found = assemble stack (again.reverse ++ items) later
  | [], found, spelled => ⟨[], found, rfl, spelled, fun _ _ => rfl⟩
  | item :: others, found, spelled => by
      rw [itemTokens, List.append_assoc] at spelled
      obtain ⟨first, middle, same, spelled, one⟩ := assemble_tokens item found spelled
      obtain ⟨again, later, all, spelled, rest⟩ := assemble_itemTokens others middle spelled
      refine ⟨first :: again, later, ?_, spelled, fun stack items => ?_⟩
      · rw [readItemsAs, readItemsAs, all]
        exact congrArg (· :: _) same
      · rw [one, rest]
        simp

end

/-! Sources. -/

theorem itemTokens_of_assembled (assembled : assemble [] [] found = .ok exprs) :
    itemTokens exprs = found.map Token.bare :=
  (assemble_eq_ok.mp assembled).itemTokens_eq

theorem legible_of_parse {source : String} (parsed : parse source = .ok exprs)
    (member : expr ∈ exprs) : expr.Legible := by
  obtain ⟨found, scanned, assembled⟩ := parse_eq_ok.mp parsed
  intro token spelled
  have among := tokens_subset member spelled
  rw [itemTokens_of_assembled assembled] at among
  obtain ⟨token, present, rfl⟩ := List.mem_map.mp among
  exact Token.bare_legible.mpr (scanTokens_legible scanned token present)

theorem exists_parse_render (legible : expr.Legible) :
    ∃ again, parse expr.render = .ok [again] ∧ again.bare = expr.reread := by
  have printed := yields_print expr legible (by simp [EndsAtom]) .end
  obtain ⟨found, scanned, spelled⟩ := printed 0
  obtain ⟨again, later, same, after, assembled⟩ := assemble_tokens expr.reread found spelled
  obtain rfl : later = [] := List.map_eq_nil_iff.mp after
  refine ⟨again, parse_eq_ok.mpr ⟨found, ?_, ?_⟩, ?_⟩
  · simpa [render, scanTokens] using scanned
  · rw [assembled]
    rfl
  · rw [same, reread, bare_readAs]

/-- Every expression of a source can be printed and read back, as one expression that differs in
nothing but its strings. It is the same expression just when each character of its strings is
printed as it is, or as an escape that the reader knows. -/
theorem parse_render {source : String} (parsed : parse source = .ok exprs)
    (member : expr ∈ exprs) :
    ∃ again, parse expr.render = .ok [again] ∧ again.bare = expr.reread ∧
      (again.bare = expr.bare ↔ expr.Echoes) := by
  obtain ⟨again, printed, same⟩ := exists_parse_render (legible_of_parse parsed member)
  exact ⟨again, printed, same, same ▸ reread_eq_bare_iff⟩

theorem parse_render_escapes :
    parse "(a \"b\\n\" #\"c\\.\")" =
        .ok [.list [.atom "a" ⟨1, 2⟩, .str "b\n" ⟨3, 8⟩, .regex "c\\." ⟨9, 15⟩] ⟨0, 16⟩] ∧
      ∃ again, parse (render (.list [.atom "a" ⟨1, 2⟩, .str "b\n" ⟨3, 8⟩,
          .regex "c\\." ⟨9, 15⟩] ⟨0, 16⟩)) = .ok [again] ∧
        again.bare = .list [.atom "a" .zero, .str "b\n" .zero, .regex "c\\." .zero] .zero := by
  have parsed : parse "(a \"b\\n\" #\"c\\.\")" =
      .ok [.list [.atom "a" ⟨1, 2⟩, .str "b\n" ⟨3, 8⟩, .regex "c\\." ⟨9, 15⟩] ⟨0, 16⟩] := by cbv
  obtain ⟨again, printed, same, _⟩ := parse_render parsed List.mem_cons_self
  exact ⟨parsed, again, printed, same.trans (by rfl)⟩

/-- A carriage return is printed as an escape that is read back as two characters. -/
theorem parse_render_return :
    ¬∀ source exprs, parse source = .ok exprs → ∀ expr ∈ exprs,
      ∃ again, parse expr.render = .ok [again] ∧ again.bare = expr.bare := by
  intro unchanged
  have parsed : parse "\"\r\"" = .ok [.str "\r" ⟨0, 3⟩] := by cbv
  have printed : parse (render (.str "\r" ⟨0, 3⟩)) = .ok [.str "\\r" ⟨0, 4⟩] := by cbv
  obtain ⟨again, found, same⟩ := unchanged _ _ parsed _ List.mem_cons_self
  rw [printed] at found
  cases found
  simp [bare, readAs] at same

end SExpr

end SandboxPolicy
