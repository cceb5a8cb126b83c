import SandboxPolicy.Proofs.Outcome
import SandboxPolicy.Proofs.Sections

/-!
Reading a profile from any bytes: they are cut where their header says, and accepted if they are
long enough and hold the texts that the profile names.
-/

namespace SandboxPolicy

def slice (bytes : List UInt8) (start stop : Nat) : List UInt8 := (bytes.take stop).drop start

variable {header : Header} {bytes : List UInt8} {start stop : Nat}

theorem slice_append_drop (ordered : start ≤ stop) :
    slice bytes start stop ++ bytes.drop stop = bytes.drop start := by
  have whole := congrArg (List.drop start) (List.take_append_drop stop bytes)
  rw [List.drop_append, List.length_take, List.drop_drop] at whole
  by_cases within : stop ≤ bytes.length
  · rwa [Nat.min_eq_left within, Nat.sub_eq_zero_of_le ordered] at whole
  · rw [slice, List.take_of_length_le (by omega), List.drop_of_length_le (i := stop) (by omega),
      List.append_nil]

theorem slice_length (within : stop ≤ bytes.length) :
    (slice bytes start stop).length = stop - start := by
  rw [slice, List.length_drop, List.length_take_of_le within]

theorem slice_getElem? (index : Nat) :
    (slice bytes start stop)[index]? =
      if start + index < stop then bytes[start + index]? else none := by
  rw [slice, List.getElem?_drop, List.getElem?_take]

namespace Plan

structure Ordered (plan : Plan) : Prop where
  regexes : 16 ≤ plan.variablesOffset
  variablePlaces : plan.variablesOffset ≤ plan.statesOffset
  variableStates : plan.statesOffset ≤ plan.entitlementsOffset
  entitlementPlaces : plan.entitlementsOffset ≤ plan.instructionsOffset
  instructions : plan.instructionsOffset ≤ plan.recordsOffset
  profiles : plan.recordsOffset ≤ plan.recordsEnd
  padding : plan.recordsEnd ≤ plan.nodesOffset
  nodes : plan.nodesOffset ≤ plan.blocksOffset
  blocks : plan.blocksOffset ≤ plan.dataOffset

theorem ordered (plan : Plan) : plan.Ordered := by
  constructor
  · rw [variablesOffset]
    omega
  · rw [variablesOffset, statesOffset]
    omega
  · rw [statesOffset, entitlementsOffset]
    omega
  · rw [entitlementsOffset, instructionsOffset]
    omega
  · rw [instructionsOffset, recordsOffset]
    omega
  · exact Nat.le_add_right _ _
  · exact le_roundUp _
  · exact Nat.le_add_right _ _
  · exact Nat.le_add_right _ _

theorem header_le (plan : Plan) : 16 ≤ plan.dataOffset := by
  obtain ⟨_, _, _, _, _, _, _, _, _⟩ := plan.ordered
  omega

end Plan

namespace Sections

def cut (plan : Plan) (bytes : List UInt8) : Sections where
  front := slice bytes 0 16
  regexes := slice bytes 16 plan.variablesOffset
  variablePlaces := slice bytes plan.variablesOffset plan.statesOffset
  variableStates := slice bytes plan.statesOffset plan.entitlementsOffset
  entitlementPlaces := slice bytes plan.entitlementsOffset plan.instructionsOffset
  instructions := slice bytes plan.instructionsOffset plan.recordsOffset
  profiles := slice bytes plan.recordsOffset plan.recordsEnd
  padding := slice bytes plan.recordsEnd plan.nodesOffset
  nodes := slice bytes plan.nodesOffset plan.blocksOffset
  blocks := slice bytes plan.blocksOffset plan.dataOffset
  data := bytes.drop plan.dataOffset

theorem cut_bytes (plan : Plan) (bytes : List UInt8) : (cut plan bytes).bytes = bytes := by
  have ordered := plan.ordered
  rw [Sections.bytes, cut]
  simp only [slice_append_drop ordered.blocks, slice_append_drop ordered.nodes,
    slice_append_drop ordered.padding, slice_append_drop ordered.profiles,
    slice_append_drop ordered.instructions, slice_append_drop ordered.entitlementPlaces,
    slice_append_drop ordered.variableStates, slice_append_drop ordered.variablePlaces,
    slice_append_drop ordered.regexes, slice_append_drop (Nat.zero_le 16), List.drop_zero]

theorem cut_fits (enough : header.plan.dataOffset ≤ bytes.length) :
    (cut header.plan bytes).Fits header := by
  obtain ⟨_, _, _, _, _, _, _, _, _⟩ := header.plan.ordered
  constructor
  · rw [cut, slice_length (by omega)]
  · rw [cut, slice_length (by omega), Plan.variablesOffset, Nat.add_sub_cancel_left]
    rfl
  · rw [cut, slice_length (by omega)]
    simp only [Plan.variablesOffset, Plan.statesOffset, Header.plan]
    omega
  · rw [cut, slice_length (by omega)]
    simp only [Plan.statesOffset, Plan.entitlementsOffset, Header.plan]
    omega
  · rw [cut, slice_length (by omega)]
    simp only [Plan.entitlementsOffset, Plan.instructionsOffset, Header.plan]
    omega
  · rw [cut, slice_length (by omega)]
    simp only [Plan.instructionsOffset, Plan.recordsOffset, Header.plan]
    omega
  · rw [cut, slice_length (by omega), Plan.recordsEnd, Nat.add_sub_cancel_left,
      header.plan_recordLength, header.plan_recordCount]
  · rw [cut, slice_length (by omega)]
  · rw [cut, slice_length (by omega), Plan.blocksOffset, Nat.add_sub_cancel_left]
    rfl
  · rw [cut, slice_length (by omega), Plan.dataOffset, Nat.add_sub_cancel_left]
    rfl

theorem cut_front (heads : header.Heads bytes) (plan : Plan) (rest : List UInt8) :
    Header.decoder (.reading 0 ((cut plan bytes).front ++ rest)) =
      .ok header (.reading 16 rest) := by
  have length : (cut plan bytes).front.length = 16 := slice_length heads.enough
  have heads' : header.Heads ((cut plan bytes).front ++ rest) := by
    refine ⟨by rw [List.length_append]; omega, heads.plan_eq.trans (Header.plan_congr ?_)⟩
    intro index inside _
    rw [List.getElem?_append_left (by omega), cut, slice_getElem?, Nat.zero_add, if_pos inside]
  rw [heads'.decoder, List.drop_left' length]

end Sections

/-! What is read. -/

/-- What can be wrong with bytes before the texts in them are read. Each complaint presupposes that
there is no reason for those before it. -/
inductive ShapeFault (bytes : List UInt8) : BytecodeError → Prop
  | headless {needed position : Nat} (few : bytes.length < 16)
      (missing : bytes.length < position + needed) (wanted : position + needed ≤ 16) :
      ShapeFault bytes (.tooSmall needed position bytes.length)
  | unknownFlag (headed : 16 ≤ bytes.length) (single : (Plan.ofBytes bytes).flags ≠ 0)
      (collection : (Plan.ofBytes bytes).flags ≠ 0x8000) :
      ShapeFault bytes (.unknownFlag (.ofNat (Plan.ofBytes bytes).flags))
  | short {needed position : Nat} (headed : 16 ≤ bytes.length)
      (known : (Plan.ofBytes bytes).flags = 0 ∨ (Plan.ofBytes bytes).flags = 0x8000)
      (few : bytes.length < (Plan.ofBytes bytes).dataOffset)
      (missing : bytes.length < position + needed)
      (wanted : position + needed ≤ (Plan.ofBytes bytes).dataOffset) :
      ShapeFault bytes (.tooSmall needed position bytes.length)

namespace Image

theorem ofBytes_cut (heads : header.Heads bytes)
    (enough : header.plan.dataOffset ≤ bytes.length) :
    ofBytes bytes = (Sections.cut header.plan bytes).read header := by
  have whole := Sections.ofBytes_bytes (Sections.cut_fits enough)
    (Sections.cut_front heads header.plan)
  rwa [Sections.cut_bytes] at whole

theorem ofBytes_headless (few : bytes.length < 16) : ∃ needed position,
    ofBytes bytes = .error (.tooSmall needed position bytes.length) ∧
      bytes.length < position + needed ∧ position + needed ≤ 16 := by
  refine ofBytes_starved ?_
  unfold decoder
  exact (Header.decoder_starves bytes few).bind (Nat.le_refl 16) _

theorem ofBytes_unknownFlag (enough : 16 ≤ bytes.length)
    (single : (Plan.ofBytes bytes).flags ≠ 0) (collection : (Plan.ofBytes bytes).flags ≠ 0x8000) :
    ofBytes bytes = .error (.unknownFlag (.ofNat (Plan.ofBytes bytes).flags)) := by
  have bound : (Plan.ofBytes bytes).flags < 65536 := Header.wordAt_lt bytes 0
  have unknown : ProfileKind.ofFlags? (.ofNat (Plan.ofBytes bytes).flags) = none := by
    have differs (known : UInt16) (other : (Plan.ofBytes bytes).flags ≠ known.toNat) :
        UInt16.ofNat (Plan.ofBytes bytes).flags ≠ known := by
      intro same
      rw [← same, UInt16.toNat_ofNat_of_lt' bound] at other
      exact other rfl
    rw [ProfileKind.ofFlags?, if_neg (differs 0 single), if_neg (differs 0x8000 collection)]
  have header := Header.decoder_whole enough
  rw [unknown] at header
  rw [ofBytes, ByteReader.ofBytes_eq, EStateM.run, decoder, Steps.bind_apply, header]

theorem ofBytes_shape (bytes : List UInt8) :
    (∃ header : Header, header.Heads bytes ∧ header.plan.dataOffset ≤ bytes.length) ∨
      ∃ error, ShapeFault bytes error ∧ ofBytes bytes = .error error := by
  by_cases headless : bytes.length < 16
  · obtain ⟨needed, position, failed, missing, wanted⟩ := ofBytes_headless headless
    exact .inr ⟨_, .headless headless missing wanted, failed⟩
  have headed := Nat.le_of_not_lt headless
  by_cases known : (Plan.ofBytes bytes).flags = 0 ∨ (Plan.ofBytes bytes).flags = 0x8000
  · obtain ⟨header, heads⟩ := Header.exists_heads headed known
    by_cases few : bytes.length < header.plan.dataOffset
    · obtain ⟨needed, position, failed, missing, wanted⟩ :=
        ofBytes_starved (decoder_starved heads few)
      rw [heads.plan_eq] at few wanted
      exact .inr ⟨_, .short headed known few missing wanted, failed⟩
    · exact .inl ⟨header, heads, Nat.le_of_not_lt few⟩
  · rw [not_or] at known
    exact .inr ⟨_, .unknownFlag headed known.1 known.2,
      ofBytes_unknownFlag headed known.1 known.2⟩

theorem ofBytes_eq_ok {image : Image} : ofBytes bytes = .ok image ↔
    ∃ header : Header, header.Heads bytes ∧ header.plan.dataOffset ≤ bytes.length ∧
      (Sections.cut header.plan bytes).read header = .ok image := by
  constructor
  · intro accepted
    rcases ofBytes_shape bytes with ⟨header, heads, enough⟩ | ⟨error, _, failed⟩
    · exact ⟨header, heads, enough, (ofBytes_cut heads enough).symm.trans accepted⟩
    · rw [accepted] at failed
      cases failed
  · rintro ⟨header, heads, enough, read⟩
    rw [ofBytes_cut heads enough, read]

end Image

theorem Sections.read_eq_ok {sections : Sections} {image : Image} :
    sections.read header = .ok image ↔ ∃ variableNames entitlements,
      (wordsOf sections.variablePlaces).mapM (DataArea.mk sections.data).text = .ok variableNames ∧
      (wordsOf sections.entitlementPlaces).mapM (DataArea.mk sections.data).text =
        .ok entitlements ∧
      image = sections.image header variableNames entitlements := by
  rw [read, Outcome.bind_eq_ok]
  constructor
  · rintro ⟨variableNames, named, done⟩
    obtain ⟨entitlements, entitled, same⟩ := Outcome.bind_eq_ok.mp done
    exact ⟨variableNames, entitlements, named, entitled, (Except.ok.inj same).symm⟩
  · rintro ⟨variableNames, entitlements, named, entitled, rfl⟩
    exact ⟨variableNames, named, Outcome.bind_eq_ok.mpr ⟨entitlements, entitled, rfl⟩⟩

namespace ProfileRecord

variable {kind : ProfileKind} {operationCount : Nat}

theorem ofWords_operations (index offset : Nat)
    (enough : bytes.length = length kind operationCount) :
    (ofWords kind index offset (wordsOf bytes)).operations.length = operationCount := by
  cases kind with
  | single => exact wordsOf_length operationCount bytes enough
  | collection =>
      have words := wordsOf_length (operationCount + 3) bytes (by rw [enough, length]; omega)
      generalize wordsOf bytes = found at words ⊢
      rcases found with _ | ⟨name, _ | ⟨mask, _ | ⟨reserved, operations⟩⟩⟩
      · simp at words
      · simp at words
      · simp at words
      · simpa [ofWords] using words

theorem readFrom_operations {index position count : Nat}
    (enough : bytes.length = length kind operationCount * count) :
    ∀ record ∈ readFrom kind operationCount index position count bytes,
      record.operations.length = operationCount := by
  induction count generalizing index position bytes with
  | zero => simp [readFrom]
  | succ count ih =>
      rw [Nat.mul_succ] at enough
      intro record member
      rcases List.mem_cons.mp member with rfl | later
      · exact ofWords_operations index position (List.length_take_of_le (by omega))
      · exact ih (by rw [List.length_drop]; omega) record later

end ProfileRecord

namespace Image

theorem ofBytes_operations {image : Image} (accepted : ofBytes bytes = .ok image) :
    ∀ record ∈ image.profiles,
      record.operations.length = image.header.operationCount.toNat := by
  obtain ⟨header, heads, enough, read⟩ := ofBytes_eq_ok.mp accepted
  obtain ⟨variableNames, entitlements, _, _, rfl⟩ := Sections.read_eq_ok.mp read
  exact ProfileRecord.readFrom_operations (Sections.cut_fits enough).profiles

end Image

end SandboxPolicy
