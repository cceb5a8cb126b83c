import Mathlib
import SandboxPolicy.Bytecode.Dissection
import SandboxPolicy.Proofs.Evaluation

/-!
Which of the profiles that can be dissected can be evaluated. A dissection shows the entries of the
regex table whatever they are; an evaluator needs each of them to be the text of a pattern.
-/

namespace SandboxPolicy

namespace Item

/-- What an evaluator has to say against an entry of the regex table. It counts the places of data
from the start of the data. -/
def patternFault? (dataOffset : Nat) : Item → Option EvalError
  | .text index _ source =>
      match Regex.compile source with
      | .ok _ => none
      | .error error => some (.invalidRegex index error.message)
  | .data _ offset _ => some (.bytecode (.invalidText (offset - dataOffset)))
  | .profile _ _ _ _ _ | .node _ _ _ => none

def IsPattern (item : Item) : Prop :=
  ∃ index offset source pattern,
    item = .text index offset source ∧ Regex.compile source = .ok pattern

end Item

theorem DataArea.text_eq {area : DataArea} {place : UInt16} {bytes : List UInt8}
    (stored : area.blob place = .ok bytes) :
    area.text place =
      match utf8Text? bytes with
      | some text => .ok text
      | none => .error (.invalidText (position place)) := by
  simp only [text, stored, bind, Except.bind]
  cases utf8Text? bytes <;> rfl

namespace Dissection

variable {image : Image} {table : OperationTable} {dissection : Dissection}

theorem regexItem_cases {index : Nat} {place : UInt16} {item : Item}
    (shown : regexItem image index place = .ok item) :
    (∃ source, item = .text index (image.dataPosition place) source ∧
        image.data.text place = .ok source) ∨
      ∃ bytes, item = .data index (image.dataPosition place) bytes ∧
        image.data.text place = .error (.invalidText (DataArea.position place)) := by
  obtain ⟨bytes, stored, shown⟩ := Outcome.bind_eq_ok.mp shown
  have read := DataArea.text_eq stored
  cases decoded : utf8Text? bytes with
  | some source =>
      simp only [decoded] at shown read
      exact .inl ⟨source, (Except.ok.inj shown).symm, read⟩
  | none =>
      simp only [decoded] at shown read
      exact .inr ⟨bytes, (Except.ok.inj shown).symm, read⟩

theorem patternFault?_eq_some_iff {index : Nat} {place : UInt16} {item : Item}
    (shown : regexItem image index place = .ok item) (error : EvalError) :
    Evaluator.readRegex image index place = .error error ↔
      item.patternFault? image.dataOffset = some error := by
  rw [Evaluator.readRegex]
  rcases regexItem_cases shown with ⟨source, rfl, read⟩ | ⟨bytes, rfl, read⟩
  · cases compiled : Regex.compile source <;>
      simp [read, compiled, Item.patternFault?, Except.mapError, bind, Except.bind]
  · simp [read, Item.patternFault?, Image.dataPosition, Except.mapError, bind, Except.bind]

theorem patternFault?_eq_none_iff {index : Nat} {place : UInt16} {item : Item}
    (shown : regexItem image index place = .ok item) :
    item.patternFault? image.dataOffset = none ↔ item.IsPattern := by
  rcases regexItem_cases shown with ⟨source, rfl, _⟩ | ⟨bytes, rfl, _⟩
  · cases compiled : Regex.compile source <;> simp [Item.patternFault?, Item.IsPattern, compiled]
  · simp [Item.patternFault?, Item.IsPattern]

structure Shows (image : Image) (table : OperationTable) (dissection : Dissection) : Prop where
  sized : image.header.operationCount.toNat = table.size
  header : dissection.header = image.header
  regexes : itemsOf (regexItem image) image.regexes = .ok dissection.regexes
  variableNames : itemsOf (textItem image) image.variablePlaces = .ok dissection.variableNames
  variableStates : itemsOf (dataItem image) image.variableStates = .ok dissection.variableStates
  entitlements : itemsOf (textItem image) image.entitlementPlaces = .ok dissection.entitlements
  instructions : itemsOf (dataItem image) image.instructions = .ok dissection.instructions
  profiles : image.profiles.mapM (profileItem image table) = .ok dissection.profiles
  operationEntries : dissection.operationEntries = image.nodes.zipIdx.map fun entry =>
    .node entry.2 (image.nodesOffset + entry.2 * Image.nodeLength) entry.1
  blocks : dissection.blocks = image.blocks.zipIdx.map fun entry =>
    .data entry.2 (image.blocksOffset + entry.2 * Image.blockLength) entry.1

theorem ofImage_shows (dissected : ofImage image table = .ok dissection) :
    dissection.Shows image table := by
  by_cases sized : image.header.operationCount.toNat = table.size
  · simp only [ofImage, sized, ne_eq, not_true_eq_false, ↓reduceIte] at dissected
    obtain ⟨_, regexes, dissected⟩ := Outcome.bind_eq_ok.mp dissected
    obtain ⟨_, variableNames, dissected⟩ := Outcome.bind_eq_ok.mp dissected
    obtain ⟨_, variableStates, dissected⟩ := Outcome.bind_eq_ok.mp dissected
    obtain ⟨_, entitlements, dissected⟩ := Outcome.bind_eq_ok.mp dissected
    obtain ⟨_, instructions, dissected⟩ := Outcome.bind_eq_ok.mp dissected
    obtain ⟨_, profiles, dissected⟩ := Outcome.bind_eq_ok.mp dissected
    obtain rfl := Except.ok.inj dissected
    exact ⟨sized, rfl, regexes, variableNames, variableStates, entitlements, instructions,
      profiles, rfl, rfl⟩
  · simp [ofImage, sized, Outcome.bind_eq_ok] at dissected

theorem shown_of_mem (dissected : ofImage image table = .ok dissection) {item : Item}
    (member : item ∈ dissection.regexes) :
    ∃ entry : UInt16 × Nat, regexItem image entry.2 entry.1 = .ok item := by
  have shown := Outcome.mapM_eq_ok.mp (ofImage_shows dissected).regexes
  obtain ⟨index, bound, rfl⟩ := List.mem_iff_getElem.mp member
  exact ⟨_, shown.get (shown.length_eq ▸ bound) bound⟩

theorem ofImage_eq_error_iff (dissected : ofImage image table = .ok dissection)
    (error : EvalError) :
    Evaluator.ofImage image table = .error error ↔
      dissection.regexes.findSome? (Item.patternFault? image.dataOffset) = some error := by
  have shows := ofImage_shows dissected
  have faults := (Outcome.mapM_eq_ok.mp shows.regexes).imp fun _ _ item =>
    patternFault?_eq_some_iff item
  rw [← Outcome.mapM_eq_error_iff faults, Evaluator.ofImage]
  simp [shows.sized, Outcome.bind_eq_error, pure, Except.pure]

/-- A profile that can be dissected can be evaluated just when every entry of its regex table is the
text of a pattern. Otherwise the first that is not is complained of. -/
theorem evaluable_iff {bytes : List UInt8} (dissected : ofBytes bytes table = .ok dissection) :
    ∃ image, Image.ofBytes bytes = .ok image ∧
      (∀ error, Evaluator.ofBytes bytes table = .error error ↔
        dissection.regexes.findSome? (Item.patternFault? image.dataOffset) = some error) ∧
      ((∃ evaluator, Evaluator.ofBytes bytes table = .ok evaluator) ↔
        ∀ item ∈ dissection.regexes, item.IsPattern) := by
  obtain ⟨image, parsed, dissected⟩ := Outcome.bind_eq_ok.mp dissected
  have complains (error : EvalError) : Evaluator.ofBytes bytes table = .error error ↔
      dissection.regexes.findSome? (Item.patternFault? image.dataOffset) = some error := by
    rw [← ofImage_eq_error_iff dissected error, Evaluator.ofBytes, parsed]
    rfl
  refine ⟨image, parsed, complains, ?_⟩
  calc (∃ evaluator, Evaluator.ofBytes bytes table = .ok evaluator)
    _ ↔ ∀ error, Evaluator.ofBytes bytes table ≠ .error error := by
        cases Evaluator.ofBytes bytes table <;> simp
    _ ↔ dissection.regexes.findSome? (Item.patternFault? image.dataOffset) = none := by
        simp only [ne_eq, complains, Option.eq_none_iff_forall_ne_some]
    _ ↔ ∀ item ∈ dissection.regexes, item.patternFault? image.dataOffset = none :=
        List.findSome?_eq_none_iff
    _ ↔ ∀ item ∈ dissection.regexes, item.IsPattern := by
        refine forall₂_congr fun item member => ?_
        obtain ⟨entry, shown⟩ := shown_of_mem dissected member
        exact patternFault?_eq_none_iff shown

def regexProfile (entry : List UInt8) : List UInt8 :=
  [0, 0, 1, 0, 1, 0, 0, 0, 0, 0, 1, 0, 0, 0, 0, 0, 0, 0, 0, 0, 0, 0, 0, 0, 1, 0, 1, 0, 0, 0, 0, 0] ++
    DataArea.encodeBlob entry

theorem evaluable_iff_letter : ∃ dissection,
    ofBytes (regexProfile [0x61]) ⟨["default"], by decide, rfl, by decide⟩ = .ok dissection ∧
    ∃ image, Image.ofBytes (regexProfile [0x61]) = .ok image ∧
      (∀ error, Evaluator.ofBytes (regexProfile [0x61]) ⟨["default"], by decide, rfl, by decide⟩ =
          .error error ↔
        dissection.regexes.findSome? (Item.patternFault? image.dataOffset) = some error) ∧
      ((∃ evaluator, Evaluator.ofBytes (regexProfile [0x61])
          ⟨["default"], by decide, rfl, by decide⟩ = .ok evaluator) ↔
        ∀ item ∈ dissection.regexes, item.IsPattern) := by
  have accepted : (ofBytes (regexProfile [0x61])
      ⟨["default"], by decide, rfl, by decide⟩).isOk = true := by cbv
  obtain ⟨dissection, shown⟩ := Outcome.exists_of_isOk accepted
  exact ⟨dissection, shown, evaluable_iff shown⟩

/-- An entry that is no text, such as the automaton of another compiler, is shown as data. -/
theorem automaton_not_evaluable :
    (∃ dissection, ofBytes (regexProfile [0xff, 0xfe, 0x80])
      ⟨["default"], by decide, rfl, by decide⟩ = .ok dissection) ∧
    Evaluator.ofBytes (regexProfile [0xff, 0xfe, 0x80]) ⟨["default"], by decide, rfl, by decide⟩ =
      .error (.bytecode (.invalidText 0)) := by
  constructor
  · apply Outcome.exists_of_isOk
    cbv
  · cbv

end Dissection

end SandboxPolicy
