import SandboxPolicy.CommandLine.Check
import SandboxPolicy.Proofs.Consistency
import SandboxPolicy.Proofs.Printing
import SandboxPolicy.Proofs.WellFormed

/-!
Sources and compiled profiles, told apart by their first characters. A profile begins with a zero
byte, which no source begins with; a source that can be read begins, behind blanks, with a form or
a comment, and only a block comment keeps it from being taken for a source.
-/

namespace SandboxPolicy

/-! The first token of a text. -/

def OpensList (tokens : List Token) : Prop := tokens.head?.map Token.bare = some (.opening 0)

namespace Scan

variable {scan next : Scan} {offset start : Nat} {c : Char} {text seen : List Char}
  {tokens completed found : List Token}

def Inside : Scan → Prop
  | .atom _ _ | .quoted _ _ _ | .escape _ _ _ => True
  | _ => False

inductive Begun : Scan → List Token → Prop
  | inside {next : Scan} : next.Inside → Begun next []
  | ended {next : Scan} {token : Token} {others : List Token} :
      token.bare ≠ .opening 0 → Begun next (token :: others)

theorem inAtom_begun (stepped : inAtom start seen offset c = .ok (next, completed)) :
    Begun next completed := by
  rw [inAtom] at stepped
  split at stepped
  next =>
    cases stepped
    exact .inside trivial
  next =>
    obtain ⟨⟨other, others⟩, _, done⟩ := Outcome.bind_eq_ok.mp stepped
    cases done
    exact .ended (by simp [Token.bare])

theorem begin_begun (solid : isBlank c = false) (noComment : c ≠ ';') (noOpening : c ≠ '(')
    (noHash : c ≠ '#') (stepped : begin offset c = .ok (next, completed)) :
    Begun next completed := by
  simp only [begin, solid, Bool.false_eq_true, noOpening, noComment, noHash, if_false] at stepped
  split at stepped
  next =>
    cases stepped
    exact .ended (by simp [Token.bare])
  next =>
    split at stepped
    next =>
      cases stepped
      exact .inside trivial
    next =>
      split at stepped
      next =>
        cases stepped
        exact .inside trivial
      next => cases stepped

theorem step_begun (inside : scan.Inside) (stepped : scan.step offset c = .ok (next, completed)) :
    Begun next completed := by
  cases scan with
  | atom => exact inAtom_begun stepped
  | quoted start verbatim seen =>
      simp only [step] at stepped
      split at stepped
      next =>
        cases stepped
        exact .ended (by cases verbatim <;> simp [quotedToken, Token.bare])
      next =>
        split at stepped
        next =>
          cases stepped
          exact .inside trivial
        next =>
          cases stepped
          exact .inside trivial
  | escape =>
      cases stepped
      exact .inside trivial
  | between | lineComment | hash | block | blockBar | blockHash => cases inside

theorem run_inside (inside : scan.Inside) (scanned : scan.run offset [] text = .ok tokens) :
    ¬OpensList tokens := by
  induction text generalizing scan offset tokens with
  | nil =>
      obtain ⟨last, finished, done⟩ := Outcome.bind_eq_ok.mp scanned
      cases done
      cases scan with
      | atom =>
          cases finished
          simp [OpensList, Token.bare]
      | quoted | escape => cases finished
      | between | lineComment | hash | block | blockBar | blockHash => cases inside
  | cons c rest ih =>
      obtain ⟨⟨next, completed⟩, stepped, _⟩ := Outcome.bind_eq_ok.mp scanned
      rw [run_cons stepped] at scanned
      obtain ⟨found, later, rfl⟩ := Outcome.map_eq_ok.mp scanned
      cases step_begun inside stepped with
      | inside inside => exact ih inside later
      | ended other => simpa [OpensList] using other

theorem run_begun (begun : Begun next completed)
    (stepped : scan.step offset c = .ok (next, completed))
    (scanned : scan.run offset [] (c :: text) = .ok tokens) : ¬OpensList tokens := by
  rw [run_cons stepped] at scanned
  obtain ⟨found, later, rfl⟩ := Outcome.map_eq_ok.mp scanned
  cases begun with
  | inside inside => exact run_inside inside later
  | ended other => simpa [OpensList] using other

theorem bar_of_hash (scanned : (Scan.hash start).run offset [] text = .ok tokens)
    (opens : OpensList tokens) : ∃ rest, text = '|' :: rest := by
  cases text with
  | nil =>
      cases scanned
      simp [OpensList, Token.bare] at opens
  | cons c rest =>
      by_cases bar : c = '|'
      · exact ⟨rest, by rw [bar]⟩
      · obtain ⟨⟨next, completed⟩, stepped, _⟩ := Outcome.bind_eq_ok.mp scanned
        have begun : Begun next completed := by
          simp only [step, bar, if_false] at stepped
          split at stepped
          next =>
            cases stepped
            exact .inside trivial
          next => exact inAtom_begun stepped
        exact absurd opens (run_begun begun stepped scanned)

theorem solid_of_opens (scanned : between.run offset [] text = .ok tokens)
    (opens : OpensList tokens) : ∃ c rest, trimStart isBlank text = c :: rest ∧
      (c = '(' ∨ c = ';' ∨ c = '#' ∧ ∃ more, rest = '|' :: more) := by
  induction text generalizing offset tokens with
  | nil =>
      cases scanned
      simp [OpensList] at opens
  | cons c rest ih =>
      obtain ⟨⟨next, completed⟩, stepped, _⟩ := Outcome.bind_eq_ok.mp scanned
      have continued := run_cons stepped rest
      rw [scanned] at continued
      obtain ⟨found, later, rfl⟩ := Outcome.map_eq_ok.mp continued.symm
      by_cases blank : isBlank c = true
      · have skipped : between.step offset c = .ok (between, []) := by
          simp [step, begin, blank]
        rw [skipped] at stepped
        cases stepped
        rw [trimStart, List.dropWhile_cons_of_pos blank]
        exact ih later opens
      · rw [trimStart, List.dropWhile_cons_of_neg blank]
        refine ⟨c, rest, rfl, ?_⟩
        by_cases hash : c = '#'
        · subst hash
          cases stepped
          exact .inr (.inr ⟨rfl, bar_of_hash later opens⟩)
        by_cases opening : c = '('
        · exact .inl opening
        by_cases comment : c = ';'
        · exact .inr (.inl comment)
        have solid : isBlank c = false := by simpa using blank
        have begun := begin_begun solid comment opening hash stepped
        exact absurd opens (run_begun begun stepped scanned)

end Scan

/-! Sources. -/

theorem Policy.parse_opens {source : String} {parameters : Bindings} {policy : Policy}
    (parsed : Policy.parse source parameters = .ok policy) :
    ∃ tokens, scanTokens source.toList = .ok tokens ∧ OpensList tokens := by
  rw [Policy.parse] at parsed
  split at parsed
  next => cases parsed
  next forms read =>
    obtain ⟨tokens, scanned, assembled⟩ := SExpr.parse_eq_ok.mp read
    refine ⟨tokens, scanned, ?_⟩
    have spelled := SExpr.itemTokens_of_assembled assembled
    cases forms with
    | nil => cases parsed
    | cons form rest =>
        cases form with
        | list items span =>
            rw [OpensList, ← List.head?_map, ← spelled]
            rfl
        | atom | str | regex => cases parsed

def OpensBlock (source : String) : Prop :=
  ∃ rest, trimStart isBlank source.toList = '#' :: '|' :: rest

theorem isSource_iff {source : String} {parameters : Bindings} {policy : Policy}
    (parsed : Policy.parse source parameters = .ok policy) :
    isSource (utf8Bytes source) = true ↔ ¬OpensBlock source := by
  obtain ⟨tokens, scanned, opens⟩ := Policy.parse_opens parsed
  obtain ⟨c, rest, solid, first⟩ := Scan.solid_of_opens scanned opens
  rw [isSource, utf8Text?_utf8Bytes, OpensBlock]
  simp only [solid, List.head?_cons]
  rcases first with rfl | rfl | ⟨rfl, more, rfl⟩ <;> simp

/-! The first byte. -/

theorem utf8Bytes_eq (text : String) :
    utf8Bytes text = text.toList.flatMap String.utf8EncodeChar := by
  rw [utf8Bytes, String.toUTF8_eq_toByteArray, ← String.utf8Encode_toList, List.utf8Encode]
  simp

theorem head?_utf8EncodeChar {c : Char} (zero : (String.utf8EncodeChar c).head? = some 0) :
    c = '\x00' := by
  have byte {value : Nat} (zero : UInt8.ofNat value = 0) : value % 256 = 0 := by
    simpa using congrArg UInt8.toNat zero
  -- The first byte of a longer sequence is 192 or more.
  have small : c.val.toNat = 0 := by
    rw [String.utf8EncodeChar] at zero
    split at zero
    next =>
      have low := byte (Option.some.inj zero)
      omega
    next =>
      split at zero
      next =>
        have low := byte (Option.some.inj zero)
        omega
      next =>
        split at zero
        next =>
          have low := byte (Option.some.inj zero)
          omega
        next =>
          have low := byte (Option.some.inj zero)
          omega
  exact Char.toNat_inj.mp small

theorem head?_utf8Bytes {text : String} (zero : (utf8Bytes text).head? = some 0) :
    text.toList.head? = some '\x00' := by
  rw [utf8Bytes_eq] at zero
  cases chars : text.toList with
  | nil =>
      rw [chars] at zero
      cases zero
  | cons c rest =>
      rw [chars, List.flatMap_cons,
        List.head?_append_of_ne_nil _ String.utf8EncodeChar_ne_nil] at zero
      rw [List.head?_cons, head?_utf8EncodeChar zero]

theorem trimStart_zero {text : List Char} (zero : text.head? = some '\x00') :
    (trimStart isBlank text).head? = some '\x00' := by
  match text, zero with
  | c :: rest, zero =>
      obtain rfl : c = '\x00' := by simpa using zero
      rw [trimStart, List.dropWhile_cons_of_neg (by decide)]
      rfl

theorem Image.head?_of_ofBytes {bytes : List UInt8} {image : Image}
    (read : Image.ofBytes bytes = .ok image) : bytes.head? = some 0 := by
  have consistent := Image.ofBytes_consistent.mp ⟨image, read⟩
  have headed := consistent.headed
  have flags : wordAt bytes 0 = 0 ∨ wordAt bytes 0 = 0x8000 := consistent.known
  match bytes, headed with
  | first :: second :: rest, _ =>
      have low : first.toNat + 256 * second.toNat = 0 ∨
          first.toNat + 256 * second.toNat = 0x8000 := by
        simpa [wordAt, byteAt] using flags
      have bound := first.toNat_lt
      have zero : first.toNat = 0 := by omega
      have isZero : first = 0 := UInt8.toNat_inj.mp zero
      rw [List.head?_cons, isZero]

theorem isSource_of_image {bytes : List UInt8} {image : Image}
    (read : Image.ofBytes bytes = .ok image) : isSource bytes = false := by
  have zero := Image.head?_of_ofBytes read
  rw [isSource]
  split
  next => rfl
  next text found =>
    rw [← utf8Bytes_of_utf8Text? found] at zero
    rw [trimStart_zero (head?_utf8Bytes zero)]
    decide

theorem not_image_of_opensBlock {source : String} (opens : OpensBlock source) (image : Image) :
    Image.ofBytes (utf8Bytes source) ≠ .ok image := by
  intro read
  obtain ⟨rest, solid⟩ := opens
  have zero := trimStart_zero (head?_utf8Bytes (Image.head?_of_ofBytes read))
  rw [solid] at zero
  cases zero

/-! Requests. -/

section Requests

variable {table : OperationTable} {parameters : Bindings} {source : String}
  {profile : CompiledProfile} {options : CheckOptions} {verbose : Bool}

theorem compiledBytes_source (compiled : compile table source parameters = .ok profile)
    (classified : isSource (utf8Bytes source) = true) (file : String) :
    compiledBytes table parameters file (utf8Bytes source) = .ok profile.bytecode := by
  rw [compiledBytes, if_pos classified, utf8Text?_utf8Bytes, Option.getD_some, compiled]

theorem compiledBytes_other {bytes : List UInt8} (classified : isSource bytes = false)
    (file : String) : compiledBytes table parameters file bytes = .ok bytes := by
  rw [compiledBytes, classified]
  rfl

theorem loadEvaluator_of_image {bytes : List UInt8} {image : Image} {evaluator : Evaluator}
    (read : Image.ofBytes bytes = .ok image)
    (accepted : Evaluator.ofBytes bytes table = .ok evaluator) (file : String) :
    ∃ evaluator, loadEvaluator table parameters file bytes = .ok evaluator := by
  rw [loadEvaluator, compiledBytes_other (isSource_of_image read)]
  simp only [bind, Except.bind, accepted]
  exact ⟨_, rfl⟩

theorem selectProfile_error {evaluator : Evaluator} {selector : String} {failure : Failure}
    (failed : selectProfile evaluator selector = .error failure) :
    failure.message = "no profile named '" ++ selector ++ "'" := by
  rw [selectProfile] at failed
  split at failed
  next => cases failed
  next =>
    split at failed
    next => cases failed
    next =>
      cases failed
      rfl

theorem checkRequest_loaded {bytes : List UInt8} {evaluator : Evaluator} {failure : Failure}
    (loaded : loadEvaluator table parameters options.file bytes = .ok evaluator)
    (failed : checkRequest table parameters bytes options verbose = .error failure) :
    failure.message ≠ "failed to load " ++ options.file := by
  intro same
  rw [checkRequest, loaded] at failed
  -- Behind loading, only the choice of the profile and the walk can fail.
  rcases Outcome.bind_eq_error.mp failed with failed | ⟨evaluator, _, failed⟩
  · cases failed
  rcases Outcome.bind_eq_error.mp failed with failed | ⟨index, _, failed⟩
  · have texts := congrArg String.toList ((selectProfile_error failed).symm.trans same)
    simp at texts
  · cases answer : evaluator.evaluate index
        ⟨options.operation, options.argument, options.entitlements⟩ with
    | error error =>
        simp only [answer] at failed
        cases failed
        have texts := congrArg String.toList same
        simp [Failure.within] at texts
    | ok decision =>
        simp only [answer] at failed
        split at failed
        next => cases failed
        next => cases failed

/-- A block comment in front of a source keeps it from being compiled. -/
theorem checkRequest_opensBlock (options : CheckOptions) (verbose : Bool)
    (opens : OpensBlock source) (classified : isSource (utf8Bytes source) = false) :
    ∃ failure, checkRequest table parameters (utf8Bytes source) options verbose = .error failure ∧
      failure.message = "failed to load " ++ options.file := by
  have refused : ∃ error, Evaluator.ofBytes (utf8Bytes source) table = .error error := by
    cases accepted : Evaluator.ofBytes (utf8Bytes source) table with
    | error error => exact ⟨error, rfl⟩
    | ok evaluator =>
        obtain ⟨image, read, _⟩ := Evaluator.ofBytes_eq_ok.mp accepted
        exact absurd read (not_image_of_opensBlock opens image)
  obtain ⟨error, refused⟩ := refused
  refine ⟨(Failure.ofEval error).within ("failed to load " ++ options.file), ?_, rfl⟩
  rw [checkRequest, loadEvaluator, compiledBytes_other classified]
  simp only [bind, Except.bind, refused]
  rfl

theorem checkRequest_compiled (compiled : compile table source parameters = .ok profile)
    (classified : isSource (utf8Bytes source) = true)
    (unclassified : isSource profile.bytecode = false) :
    checkRequest table parameters (utf8Bytes source) options verbose =
      checkRequest table parameters profile.bytecode options verbose := by
  rw [checkRequest, checkRequest, loadEvaluator, loadEvaluator,
    compiledBytes_source compiled classified, compiledBytes_other unclassified]

end Requests

/-- A request gets the same answer from a source as from what it is compiled to, except from a
source with a block comment in front of it: that is taken for a compiled profile. -/
theorem checkRequest_source (table : OperationTable) (parameters : Bindings) :
    (∀ bytes image, Image.ofBytes bytes = .ok image → isSource bytes = false) ∧
    ∀ source profile, compile table source parameters = .ok profile →
      (isSource (utf8Bytes source) = true ↔ ¬OpensBlock source) ∧
      ∀ options verbose, checkRequest table parameters (utf8Bytes source) options verbose =
          checkRequest table parameters profile.bytecode options verbose ↔
        ¬OpensBlock source := by
  refine ⟨fun bytes image => isSource_of_image, fun source profile compiled => ?_⟩
  obtain ⟨_, policy, checked, compiles⟩ := compile_compiles compiled
  have sources := isSource_iff (Policy.check_eq_ok.mp checked).1
  obtain ⟨⟨image, read, _⟩, _, evaluator, accepted, _⟩ := compiles.usable
  refine ⟨sources, fun options verbose => ⟨fun same opens => ?_, fun plain => ?_⟩⟩
  · have classified : isSource (utf8Bytes source) = false := by
      rw [← Bool.not_eq_true, sources]
      exact not_not.mpr opens
    obtain ⟨failure, failed, message⟩ :=
      checkRequest_opensBlock options verbose opens classified
    obtain ⟨_, loaded⟩ := loadEvaluator_of_image read accepted options.file
    exact checkRequest_loaded loaded (same ▸ failed) message
  · exact checkRequest_compiled compiled (sources.mpr plain) (isSource_of_image read)

set_option maxRecDepth 100000 in
theorem checkRequest_source_plain : ∃ profile image,
    compile ⟨["default"], by decide, rfl, by decide⟩ "; c\n(version 1) (allow default)" .empty =
      .ok profile ∧
    Image.ofBytes profile.bytecode = .ok image ∧ isSource profile.bytecode = false ∧
    ∀ options verbose,
      checkRequest ⟨["default"], by decide, rfl, by decide⟩ .empty
          (utf8Bytes "; c\n(version 1) (allow default)") options verbose =
        checkRequest ⟨["default"], by decide, rfl, by decide⟩ .empty profile.bytecode options
          verbose := by
  have plain : ¬OpensBlock "; c\n(version 1) (allow default)" := by
    rintro ⟨rest, solid⟩
    have first : (trimStart isBlank "; c\n(version 1) (allow default)".toList).head? = some '#' :=
      solid ▸ rfl
    exact absurd first (by decide)
  have accepted : (compile ⟨["default"], by decide, rfl, by decide⟩
      "; c\n(version 1) (allow default)" .empty).isOk = true := by cbv
  obtain ⟨profile, compiled⟩ := Outcome.exists_of_isOk accepted
  obtain ⟨_, _, _, compiles⟩ := compile_compiles compiled
  obtain ⟨image, read, _⟩ := compiles.usable.image
  have checked := checkRequest_source ⟨["default"], by decide, rfl, by decide⟩ .empty
  refine ⟨profile, image, compiled, read, checked.1 _ image read, fun options verbose => ?_⟩
  exact ((checked.2 _ profile compiled).2 options verbose).mpr plain

set_option maxRecDepth 100000 in
theorem checkRequest_source_block : ¬∀ table parameters source profile,
    compile table source parameters = .ok profile → ∀ options verbose,
      checkRequest table parameters (utf8Bytes source) options verbose =
        checkRequest table parameters profile.bytecode options verbose := by
  intro alike
  have opens : OpensBlock "#| c |#\n(version 1) (allow default)" := ⟨_, rfl⟩
  have classified : isSource (utf8Bytes "#| c |#\n(version 1) (allow default)") = false := by
    rw [isSource, utf8Text?_utf8Bytes]
    decide
  have succeeds : (compile ⟨["default"], by decide, rfl, by decide⟩
      "#| c |#\n(version 1) (allow default)" .empty).isOk = true := by cbv
  let options : CheckOptions := ⟨"app.sb", "default", none, [], "0", [], false, none⟩
  obtain ⟨profile, compiled⟩ := Outcome.exists_of_isOk succeeds
  obtain ⟨_, _, _, compiles⟩ := compile_compiles compiled
  obtain ⟨⟨image, read, _⟩, _, evaluator, accepted, _⟩ := compiles.usable
  obtain ⟨failure, failed, message⟩ := checkRequest_opensBlock options false opens classified
  obtain ⟨_, loaded⟩ := loadEvaluator_of_image read accepted options.file
  rw [alike _ _ _ profile compiled] at failed
  exact checkRequest_loaded loaded failed message

end SandboxPolicy
