import Mathlib
import SandboxPolicy.Proofs.Inlining
import SandboxPolicy.Proofs.Positions
import SandboxPolicy.Proofs.Spacing

/-!
Sources in which quoted texts are written in the places of references. A quoted text is one token
for the scanner, whatever it has in it, so the other expressions stay as they are, and so does the
policy.
-/

namespace SandboxPolicy

open String (utf8Len)

/-! Writing texts into a source. -/

def escapeChar (c : Char) : List Char := if c = '"' ∨ c = '\\' then ['\\', c] else [c]

def literalChars (text : List Char) : List Char := '"' :: text.flatMap escapeChar ++ ['"']

def charsFrom (offset : Nat) (text : List Char) : List Char :=
  text.drop (charsBefore offset text).length

def replaced (offset : Nat) (text : List Char) : List (Span × List Char) → List Char
  | [] => text
  | (span, chars) :: edits =>
      charsBefore (span.start - offset) text ++ chars ++
        replaced span.stop (charsFrom (span.stop - offset) text) edits

namespace SExpr

def edit (parameters : Bindings) (expr : SExpr) : Span × List Char :=
  (expr.span, literalChars (expr.denoted parameters).toList)

def edits (parameters : Bindings) (exprs : List SExpr) : List (Span × List Char) :=
  (referencesIn exprs).map (edit parameters)

/-- The source with each reference replaced by the quoted text that it denotes, but for those that
are for debugging only. -/
def inlinedSource (parameters : Bindings) (source : String) : String :=
  match parse source with
  | .ok exprs => String.ofList (replaced 0 source.toList (edits parameters exprs))
  | .error _ => source

end SExpr

variable {offset : Nat} {text front gap rest rest' : List Char} {token : Token}
  {tokens more found : List Token} {regions : List (Span × List Char)}

theorem charsFrom_append (front rest : List Char) (offset : Nat) :
    charsFrom (offset + utf8Len front) (front ++ rest) = charsFrom offset rest := by
  rw [charsFrom, charsBefore_append, List.length_append, ← List.drop_drop, List.drop_left,
    charsFrom]

theorem charsFrom_utf8Len (front rest : List Char) :
    charsFrom (utf8Len front) (front ++ rest) = rest := by
  rw [charsFrom, charsBefore_utf8Len, List.drop_left]

theorem replaced_append (behind : ∀ edit ∈ regions,
      offset + utf8Len front ≤ edit.1.start ∧ edit.1.start ≤ edit.1.stop) :
    replaced offset (front ++ rest) regions =
      front ++ replaced (offset + utf8Len front) rest regions := by
  cases regions with
  | nil => rfl
  | cons edit regions =>
      obtain ⟨starts, ordered⟩ := behind edit List.mem_cons_self
      have distance {place : Nat} (after : offset + utf8Len front ≤ place) :
          place - offset = place - (offset + utf8Len front) + utf8Len front := by
        omega
      rw [replaced, replaced, distance starts, distance (starts.trans ordered), charsBefore_append,
        charsFrom_append]
      simp

/-! What the scanner finds in the pieces. -/

namespace Scan

theorem Yields.of_run (scanned : between.run offset [] text = .ok tokens) :
    between.Yields text (tokens.map Token.bare) := by
  rw [scanTokens_moved, Outcome.moved_eq_ok] at scanned
  obtain ⟨found, fromStart, rfl⟩ := scanned
  intro place
  refine ⟨found.map (Token.moved (· + place)), ?_, ?_⟩
  · rw [scanTokens_moved, fromStart]
    rfl
  · simp [Function.comp_def, Token.bare_moved]

theorem Passes.yields (passes : between.Passes offset gap between)
    (yields : between.Yields rest found) : between.Yields (gap ++ rest) found := by
  obtain ⟨tokens, scanned, rfl⟩ := yields (offset + utf8Len gap)
  rw [← passes] at scanned
  exact .of_run scanned

theorem Reads.yields {part : List Char} (reads : Reads offset part token)
    (stops : token.StopsAt rest) (yields : between.Yields rest found) :
    between.Yields (part ++ rest) (token.bare :: found) := by
  obtain ⟨tokens, scanned, rfl⟩ := yields (offset + utf8Len part)
  have whole := reads.onward rest stops
  rw [scanned] at whole
  exact .of_run whole

theorem Yields.escapedChars {start : Nat} {seen : List Char} (text : List Char)
    (yields : (Scan.quoted start false (text.reverse ++ seen)).Yields rest found) :
    (Scan.quoted start false seen).Yields (text.flatMap escapeChar ++ rest) found := by
  induction text generalizing seen with
  | nil => exact yields
  | cons c text ih =>
      have later : (Scan.quoted start false (c :: seen)).Yields
          (text.flatMap escapeChar ++ rest) found := ih (by simpa using yields)
      rw [List.flatMap_cons, List.append_assoc, escapeChar]
      split
      next special =>
        have unescaped : unescape false c seen = c :: seen := by
          rw [unescape, if_neg Bool.false_ne_true, if_pos special]
        exact .escaped (unescaped ▸ later)
      next plain => exact .plain [c] (List.forall_mem_singleton.mpr (not_or.mp plain)) later

theorem Yields.literal (text : List Char) (yields : between.Yields rest found) :
    between.Yields (literalChars text ++ rest) (.str (String.ofList text) .zero :: found) := by
  have opened (start : Nat) : (Scan.quoted start false []).Yields
      (text.flatMap escapeChar ++ '"' :: rest) (.str (String.ofList text) .zero :: found) := by
    have closed := yields.close start false text.reverse
    refine .escapedChars text ?_
    simpa [quotedToken] using closed
  have split : literalChars text ++ rest = '"' :: (text.flatMap escapeChar ++ '"' :: rest) := by
    simp [literalChars]
  rw [split]
  exact .step [] fun offset => ⟨.quoted offset false [], [], rfl, rfl, opened offset⟩

/-! Some tokens are replaced. -/

theorem Laid.behind {before : List Token} (laid : Laid offset text (before ++ token :: tokens)) :
    ∃ front rest, text = front ++ rest ∧ token.span.stop = offset + utf8Len front ∧
      Laid (offset + utf8Len front) rest tokens := by
  obtain ⟨front, _, rfl, _, laid⟩ := laid.drop
  cases laid with
  | @token _ gap part rest _ _ silent reads stops later =>
      refine ⟨front ++ (gap ++ part), rest, by simp, ?_, ?_⟩
      · rw [reads.span]
        simp [Nat.add_assoc]
      · simpa [Nat.add_assoc] using later

theorem Laid.list {start stop : Nat} {inner : List Token}
    (laid : Laid offset text (.opening start :: inner ++ .closing stop :: tokens)) :
    ∃ gap part rest, text = gap ++ (part ++ rest) ∧ between.Passes offset gap between ∧
      start = offset + utf8Len gap ∧ stop + 1 = offset + utf8Len (gap ++ part) ∧
      Laid (stop + 1) rest tokens := by
  cases laid with
  | @token _ gap first _ _ _ silent reads stops later =>
      obtain ⟨front, rest, rfl, place, after⟩ := later.behind
      have begins : start = offset + utf8Len gap := congrArg Span.start reads.span
      have ends : stop + 1 = offset + utf8Len gap + utf8Len first + utf8Len front := place
      refine ⟨gap, first ++ front, rest, by simp, silent, begins, ?_, ends ▸ after⟩
      rw [ends]
      simp [Nat.add_assoc]

/-- Of the tokens of a text, those of some lists are replaced by quoted texts, and these others are
found then. No number sign is kept in front of a quoted text. The mark tells whether the first
token is replaced. -/
inductive Edited : Bool → List Token → List (Span × List Char) → List Token → Prop
  | nil : Edited false [] [] []
  | keep {replaces : Bool} {token : Token} {tokens found : List Token}
      {regions : List (Span × List Char)} (edited : Edited replaces tokens regions found)
      (apart : replaces = true → ∀ span, token ≠ .atom "#" span) :
      Edited false (token :: tokens) regions (token.bare :: found)
  | replace {replaces : Bool} {start stop : Nat} {inner tokens found : List Token}
      {regions : List (Span × List Char)} (text : String)
      (edited : Edited replaces tokens regions found) :
      Edited true (.opening start :: inner ++ .closing stop :: tokens)
        ((⟨start, stop + 1⟩, literalChars text.toList) :: regions) (.str text .zero :: found)

theorem Edited.keepAll {inner : List Token} (edited : Edited false tokens regions found) :
    Edited false (inner ++ tokens) regions (inner.map Token.bare ++ found) := by
  induction inner with
  | nil => exact edited
  | cons token inner ih => exact .keep ih (by simp)

theorem Edited.places {replaces : Bool} (edited : Edited replaces tokens regions found)
    (laid : Laid offset text tokens) :
    ∀ edit ∈ regions, offset ≤ edit.1.start ∧ edit.1.start ≤ edit.1.stop := by
  induction edited generalizing offset text with
  | nil => simp
  | keep _ _ ih =>
      cases laid with
      | token _ _ _ later =>
          intro edit member
          obtain ⟨starts, ordered⟩ := ih later edit member
          exact ⟨by omega, ordered⟩
  | @replace _ start stop _ _ _ regions _ _ ih =>
      obtain ⟨gap, part, rest, rfl, _, begins, ends, later⟩ := laid.list
      rw [String.utf8Len_append] at ends
      intro edit member
      rcases List.mem_cons.mp member with rfl | behind
      · dsimp only
        omega
      · obtain ⟨starts, ordered⟩ := ih later edit behind
        exact ⟨by omega, ordered⟩

def SameStart (replaces : Bool) (text text' : List Char) : Prop :=
  text'.head? = text.head? ∨ replaces = true ∧ text'.head? = some '"'

theorem SameStart.behind {replaces : Bool} (some : front ≠ []) (rest rest' : List Char) :
    SameStart replaces (front ++ rest) (front ++ rest') := by
  cases front with
  | nil => exact absurd rfl some
  | cons c front => exact .inl rfl

theorem SameStart.stopsAt {replaces : Bool} (same : SameStart replaces rest rest')
    (apart : replaces = true → ∀ span, token ≠ .atom "#" span) (stops : token.StopsAt rest) :
    token.StopsAt rest' := by
  cases token with
  | opening | closing | str | regex => trivial
  | atom text span =>
      intro c first
      rcases same with same | ⟨replaces, quote⟩
      · exact stops c (same ▸ first)
      · rw [quote] at first
        obtain rfl : '"' = c := Option.some.inj first
        exact ⟨by decide, fun isHash => (apart replaces span (by rw [isHash])).elim⟩

theorem Edited.yields {replaces : Bool} (edited : Edited replaces tokens regions found)
    (laid : Laid offset text tokens) :
    between.Yields (replaced offset text regions) found ∧
      SameStart replaces text (replaced offset text regions) := by
  induction edited generalizing offset text with
  | nil =>
      cases laid with
      | gap silent => exact ⟨.of_run silent, .inl rfl⟩
  | @keep _ token _ _ regions edited apart ih =>
      cases laid with
      | @token _ gap part rest _ _ silent reads stops later =>
          obtain ⟨yields, same⟩ := ih later
          have place : offset + utf8Len (gap ++ part) =
              offset + utf8Len gap + utf8Len part := by
            rw [String.utf8Len_append, Nat.add_assoc]
          have pieces : replaced offset (gap ++ part ++ rest) regions =
              gap ++ part ++ replaced (offset + utf8Len gap + utf8Len part) rest regions := by
            rw [replaced_append (place ▸ edited.places later), place]
          rw [pieces]
          refine ⟨?_, .behind (by simp [reads.nonempty]) _ _⟩
          rw [List.append_assoc]
          exact silent.yields (reads.yields (same.stopsAt apart stops) yields)
  | @replace _ start stop _ _ _ regions text _ ih =>
      obtain ⟨gap, part, rest, rfl, silent, begins, ends, later⟩ := laid.list
      obtain ⟨yields, _⟩ := ih later
      have first : start - offset = utf8Len gap := by omega
      have last : stop + 1 - offset = utf8Len (gap ++ part) := by omega
      have pieces : replaced offset (gap ++ (part ++ rest))
            ((⟨start, stop + 1⟩, literalChars text.toList) :: regions) =
          gap ++ (literalChars text.toList ++ replaced (stop + 1) rest regions) := by
        rw [replaced, first, charsBefore_utf8Len, last, ← List.append_assoc gap part,
          charsFrom_utf8Len, List.append_assoc]
      rw [pieces]
      refine ⟨silent.yields ?_, ?_⟩
      · simpa using yields.literal text.toList
      · cases gap with
        | nil => exact .inr ⟨rfl, rfl⟩
        | cons c gap => exact .behind (List.cons_ne_nil c gap) _ _

end Scan

/-! Expressions in a source. -/

namespace SExpr

open Scan (Edited)

variable {exprs : List SExpr} {parameters : Bindings}

theorem Abreast.sign {text : String} {span : Span} (abreast : Abreast (.atom text span :: exprs)) :
    exprs.head?.any refers = true → ∀ place, Token.atom text span ≠ .atom "#" place := by
  intro replaces place same
  cases same
  rcases abreast.separate with kept | free
  · cases exprs with
    | nil => cases replaces
    | cons next exprs => exact absurd replaces (by simp [kept next])
  · exact free span List.mem_cons_self

theorem edits_cons (expr : SExpr) (exprs : List SExpr) : edits parameters (expr :: exprs) =
    expr.references.map (edit parameters) ++ edits parameters exprs := by
  rw [edits, referencesIn, List.map_append, edits]

theorem Spells.edited (spells : Spells tokens exprs) (abreast : Abreast exprs)
    (rest : Edited false more regions found) :
    Edited (exprs.head?.any refers) (tokens ++ more) (edits parameters exprs ++ regions)
      (itemTokens (inlinedItems parameters exprs) ++ found) := by
  -- What is behind the tokens begins with one that is kept, such as the parenthesis that closes
  -- the list around them.
  induction spells generalizing more regions found with
  | nil => exact rest
  | atom _ ih => exact .keep (ih abreast.tail rest) abreast.sign
  | str _ ih | regex _ ih => exact .keep (ih abreast.tail rest) (by simp)
  | @list start stop inner tokens items exprs inside _ within ih =>
      have later := ih abreast.tail rest
      have closed : Edited false (.closing stop :: tokens ++ more)
          (edits parameters exprs ++ regions)
          (.closing 0 :: itemTokens (inlinedItems parameters exprs) ++ found) :=
        .keep later (by simp)
      rw [edits_cons, inlinedItems, itemTokens, List.head?_cons, Option.any_some]
      by_cases replaces : (SExpr.list items ⟨start, stop + 1⟩).refers = true
      · rw [references, inlined, if_pos replaces, if_pos replaces, replaces]
        simpa [SExpr.tokens, edit, SExpr.span] using
          Edited.replace ((SExpr.list items ⟨start, stop + 1⟩).denoted parameters) later
      rw [references, inlined, if_neg replaces, if_neg replaces, Bool.eq_false_iff.mpr replaces]
      by_cases isDebug : (SExpr.list items ⟨start, stop + 1⟩).head? = some "debug"
      · rw [if_pos isDebug, if_pos isDebug, SExpr.tokens, inside.itemTokens_eq]
        have kept : Edited false (.opening start :: (inner ++ (.closing stop :: tokens ++ more)))
          _ _ := .keep closed.keepAll (by simp)
        simpa [Token.bare] using kept
      · rw [if_neg isDebug, if_neg isDebug]
        have apart := abreast.apart _ List.mem_cons_self
        have kept : Edited false (.opening start :: (inner ++ (.closing stop :: tokens ++ more)))
          _ _ := .keep (within (apart.abreast replaces isDebug) closed) (by simp)
        simpa [Token.bare, SExpr.tokens, edits] using kept

theorem parse_inlinedSource {source : String} (parsed : parse source = .ok exprs)
    (stays : ∀ expr ∈ exprs, expr.Stays) :
    ∃ others, parse (inlinedSource parameters source) = .ok others ∧
      others.map bare = (inlinedItems parameters exprs).map bare := by
  obtain ⟨tokens, scanned, assembled⟩ := parse_eq_ok.mp parsed
  have edited : Edited (exprs.head?.any refers) (tokens ++ []) (edits parameters exprs ++ [])
      (itemTokens (inlinedItems parameters exprs) ++ []) :=
    (assemble_eq_ok.mp assembled).edited (.of_stays stays) .nil
  rw [List.append_nil, List.append_nil, List.append_nil] at edited
  obtain ⟨again, scanned', spelled⟩ := (edited.yields (Scan.run_eq_ok.mp scanned)).1 0
  obtain ⟨others, assembled', same⟩ := assemble_of_itemTokens spelled
  refine ⟨others, parse_eq_ok.mpr ⟨again, ?_, assembled'⟩, same⟩
  rw [inlinedSource, parsed, String.toList_ofList]
  exact scanned'

end SExpr

namespace Outcome

theorem exists_of_placeless {α β : Type} {outcome : Except PolicyError α} {change : α → β}
    {value : β} (same : placeless (outcome.map change) = .ok value) :
    ∃ result, outcome = .ok result ∧ change result = value := by
  cases outcome with
  | error error => cases same
  | ok result => exact ⟨result, rfl, Except.ok.inj same⟩

end Outcome

def SExpr.sourceKeys (source : String) : List String :=
  match parse source with
  | .ok exprs => keysIn exprs
  | .error _ => []

theorem Policy.parse_inlinedSource {source : String} {parameters : Bindings} {policy : Policy}
    (read : Policy.parse source parameters = .ok policy) (others : Bindings) :
    ∃ again, Policy.parse (SExpr.inlinedSource parameters source) others = .ok again ∧
      again.bare = policy.bare := by
  rw [Policy.parse] at read
  split at read
  next => cases read
  next forms parsed =>
    let reading : PolicySource := ⟨SExpr.inlinedSource parameters source, others⟩
    obtain ⟨stays, again⟩ := @PolicySource.policy_inlined ⟨source, parameters⟩ reading _ _ read
    obtain ⟨found, parsed', same⟩ := @SExpr.parse_inlinedSource _ parameters _ parsed stays
    -- Both lists of expressions are read as they are read without places.
    have found_bare := @PolicySource.policy_bare reading found
    have forms_bare := @PolicySource.policy_bare reading (SExpr.inlinedItems parameters forms)
    rw [same, ← forms_bare, again] at found_bare
    rw [Policy.parse, parsed']
    exact Outcome.exists_of_placeless found_bare

theorem Policy.parse_congr {source : String} {parameters others : Bindings}
    (agree : parameters.AgreeOn others (SExpr.sourceKeys source)) :
    Policy.parse source parameters = Policy.parse source others := by
  rw [Policy.parse, Policy.parse]
  rw [SExpr.sourceKeys] at agree
  cases parsed : SExpr.parse source with
  | error error => rfl
  | ok forms =>
      rw [parsed] at agree
      exact PolicySource.policy_congr forms agree

/-- Parameters are as good as quoted texts in the places of the references to them, and no other
parameters matter. -/
theorem Policy.parse_inlined (source : String) (parameters : Bindings) :
    (∀ policy, Policy.parse source parameters = .ok policy → ∀ others, ∃ again,
      Policy.parse (SExpr.inlinedSource parameters source) others = .ok again ∧
        again.bare = policy.bare) ∧
    ∀ others, parameters.AgreeOn others (SExpr.sourceKeys source) →
      Policy.parse source parameters = Policy.parse source others :=
  ⟨fun _ read => parse_inlinedSource read, fun _ => parse_congr⟩

set_option maxRecDepth 100000 in
theorem Policy.parse_inlined_quote : ∃ policy,
    Policy.parse
    "(version 1) (deny default (literal (string-append (param \"R\") \"a\")))(debug(param \"X\"))"
      (.ofList [("R", "/\"")]) = .ok policy ∧
    SExpr.inlinedSource (.ofList [("R", "/\"")])
    "(version 1) (deny default (literal (string-append (param \"R\") \"a\")))(debug(param \"X\"))" =
      "(version 1) (deny default (literal \"/\\\"a\"))(debug(param \"X\"))" ∧
    (∀ others, ∃ again,
      Policy.parse "(version 1) (deny default (literal \"/\\\"a\"))(debug(param \"X\"))" others =
        .ok again ∧ again.bare = policy.bare) ∧
    Policy.parse
    "(version 1) (deny default (literal (string-append (param \"R\") \"a\")))(debug(param \"X\"))"
      (.ofList [("R", "/\"")]) =
    Policy.parse
    "(version 1) (deny default (literal (string-append (param \"R\") \"a\")))(debug(param \"X\"))"
      (.ofList [("R", "/\""), ("X", "x")]) := by
  have read : Policy.parse
    "(version 1) (deny default (literal (string-append (param \"R\") \"a\")))(debug(param \"X\"))"
      (.ofList [("R", "/\"")]) =
    .ok ⟨1, ⟨0, 11⟩, [⟨.deny, ["default"], some (.leaf "literal" (.path "/\"a")), .none,
      ⟨12, 68⟩⟩]⟩ := by cbv
  have written : SExpr.inlinedSource (.ofList [("R", "/\"")])
    "(version 1) (deny default (literal (string-append (param \"R\") \"a\")))(debug(param \"X\"))" =
      "(version 1) (deny default (literal \"/\\\"a\"))(debug(param \"X\"))" := by cbv
  have keys : SExpr.sourceKeys
    "(version 1) (deny default (literal (string-append (param \"R\") \"a\")))(debug(param \"X\"))" =
      ["R"] := by cbv
  obtain ⟨inlined, depends⟩ := parse_inlined
    "(version 1) (deny default (literal (string-append (param \"R\") \"a\")))(debug(param \"X\"))"
    (.ofList [("R", "/\"")])
  refine ⟨_, read, written, written ▸ inlined _ read, depends _ ?_⟩
  rw [keys]
  exact List.forall_mem_singleton.mpr rfl

end SandboxPolicy
