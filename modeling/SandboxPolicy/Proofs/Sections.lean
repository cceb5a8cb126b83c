import SandboxPolicy.Bytecode.Image
import SandboxPolicy.Proofs.Decoding

/-!
The sections of a compiled profile: where the counts in its header put them, and what is read from
bytes that are cut up so.
-/

namespace SandboxPolicy

open Steps

def byteAt (bytes : List UInt8) (index : Nat) : Nat := (bytes[index]?.getD 0).toNat

def wordAt (bytes : List UInt8) (index : Nat) : Nat :=
  byteAt bytes index + 256 * byteAt bytes (index + 1)

/-- The numbers in a header, whether they make sense or not. -/
structure Plan where
  flags : Nat
  nodeCount : Nat
  blockCount : Nat
  operationCount : Nat
  variableCount : Nat
  variableStateCount : Nat
  profileCount : Nat
  regexCount : Nat
  entitlementCount : Nat
  instructionCount : Nat

namespace Plan

def ofBytes (bytes : List UInt8) : Plan where
  flags := wordAt bytes 0
  nodeCount := byteAt bytes 2
  blockCount := byteAt bytes 3
  operationCount := byteAt bytes 4
  variableCount := byteAt bytes 5
  variableStateCount := byteAt bytes 6
  profileCount := wordAt bytes 8
  regexCount := wordAt bytes 10
  entitlementCount := wordAt bytes 12
  instructionCount := wordAt bytes 14

variable (plan : Plan)

/-- Header, tables, records, nodes, blocks and data follow each other. Only the nodes, and with them
all that comes after, are moved up to a multiple of eight. -/
def variablesOffset : Nat := 16 + 2 * plan.regexCount

def statesOffset : Nat := 16 + 2 * (plan.regexCount + plan.variableCount)

def entitlementsOffset : Nat :=
  16 + 2 * (plan.regexCount + plan.variableCount + plan.variableStateCount)

def instructionsOffset : Nat :=
  16 + 2 * (plan.regexCount + plan.variableCount + plan.variableStateCount +
    plan.entitlementCount)

def recordsOffset : Nat :=
  16 + 2 * (plan.regexCount + plan.variableCount + plan.variableStateCount +
    plan.entitlementCount + plan.instructionCount)

def isCollection : Bool := plan.flags == 0x8000

def recordLength : Nat :=
  if plan.isCollection then 6 + 2 * plan.operationCount else 2 * plan.operationCount

def recordCount : Nat := if plan.isCollection then plan.profileCount else 1

def recordsEnd : Nat := plan.recordsOffset + plan.recordLength * plan.recordCount

def nodesOffset : Nat := roundUp plan.recordsEnd

def blocksOffset : Nat := plan.nodesOffset + 8 * plan.nodeCount

def dataOffset : Nat := plan.blocksOffset + 2048 * plan.blockCount

def header (kind : ProfileKind) : Header where
  kind := kind
  nodeCount := .ofNat plan.nodeCount
  blockCount := .ofNat plan.blockCount
  operationCount := .ofNat plan.operationCount
  variableCount := .ofNat plan.variableCount
  variableStateCount := .ofNat plan.variableStateCount
  profileCount := .ofNat plan.profileCount
  regexCount := .ofNat plan.regexCount
  entitlementCount := .ofNat plan.entitlementCount
  instructionCount := .ofNat plan.instructionCount

end Plan

/-! The header. -/

namespace Header

def plan (header : Header) : Plan where
  flags := header.kind.flags.toNat
  nodeCount := header.nodeCount.toNat
  blockCount := header.blockCount.toNat
  operationCount := header.operationCount.toNat
  variableCount := header.variableCount.toNat
  variableStateCount := header.variableStateCount.toNat
  profileCount := header.profileCount.toNat
  regexCount := header.regexCount.toNat
  entitlementCount := header.entitlementCount.toNat
  instructionCount := header.instructionCount.toNat

theorem plan_recordLength (header : Header) :
    header.plan.recordLength = ProfileRecord.length header.kind header.operationCount.toNat := by
  obtain ⟨kind, _, _, _, _, _, _, _, _, _⟩ := header
  cases kind <;> rfl

theorem plan_recordCount (header : Header) : header.plan.recordCount = header.recordCount := by
  obtain ⟨kind, _, _, _, _, _, _, _, _, _⟩ := header
  cases kind <;> rfl

theorem tables_end (header : Header) :
    16 + 2 * header.regexCount.toNat + 2 * header.variableCount.toNat +
      2 * header.variableStateCount.toNat + 2 * header.entitlementCount.toNat +
      2 * header.instructionCount.toNat = header.plan.recordsOffset := by
  simp only [plan, Plan.recordsOffset]
  omega

theorem records_end (header : Header) :
    header.plan.recordsOffset +
      ProfileRecord.length header.kind header.operationCount.toNat * header.recordCount =
        header.plan.recordsEnd := by
  rw [Plan.recordsEnd, plan_recordLength, plan_recordCount]

/-- The header of a profile is in its first sixteen bytes, of which the eighth is not read. -/
theorem decoder_whole {bytes : List UInt8} (enough : 16 ≤ bytes.length) :
    decoder (.reading 0 bytes) =
      match ProfileKind.ofFlags? (.ofNat (Plan.ofBytes bytes).flags) with
      | none =>
          .error (.unknownFlag (.ofNat (Plan.ofBytes bytes).flags)) (.reading 16 (bytes.drop 16))
      | some kind =>
          .ok ((Plan.ofBytes bytes).header kind) (.reading 16 (bytes.drop 16)) := by
  match bytes, enough with
  | b0 :: b1 :: b2 :: b3 :: b4 :: b5 :: b6 :: b7 :: b8 :: b9 :: b10 :: b11 :: b12 :: b13 :: b14 ::
      b15 :: rest, _ =>
    have length : 16 + rest.length = rest.length + 16 := Nat.add_comm _ _
    have byte (value : UInt8) : UInt8.ofNat value.toNat = value := UInt8.ofNat_toNat
    simp only [decoder, bind_apply, Decoder.word, Decoder.byte, ByteReader.reading, Plan.header,
      Plan.ofBytes, wordAt, byteAt, List.getElem?_cons_succ, List.getElem?_cons_zero,
      Option.getD_some, byte, wordOf, Nat.zero_add, List.drop_succ_cons, List.drop_zero, length]
    cases ProfileKind.ofFlags? (.ofNat (b0.toNat + 256 * b1.toNat)) <;> rfl

theorem byteAt_lt (bytes : List UInt8) (index : Nat) : byteAt bytes index < 256 :=
  UInt8.toNat_lt _

theorem wordAt_lt (bytes : List UInt8) (index : Nat) : wordAt bytes index < 65536 := by
  have low := byteAt_lt bytes index
  have high := byteAt_lt bytes (index + 1)
  rw [wordAt]
  omega

structure Heads (header : Header) (bytes : List UInt8) : Prop where
  enough : 16 ≤ bytes.length
  plan_eq : header.plan = Plan.ofBytes bytes

theorem header_plan (header : Header) : header.plan.header header.kind = header := by
  simp [plan, Plan.header]

variable {header : Header} {bytes other : List UInt8}

theorem Heads.decoder (heads : header.Heads bytes) :
    Header.decoder (.reading 0 bytes) = .ok header (.reading 16 (bytes.drop 16)) := by
  have flags : ProfileKind.ofFlags? (.ofNat header.plan.flags) = some header.kind := by
    rw [plan, UInt16.ofNat_toNat]
    cases header.kind <;> rfl
  rw [decoder_whole heads.enough, ← heads.plan_eq, flags]
  simp only [header_plan]

theorem exists_heads (enough : 16 ≤ bytes.length)
    (flags : (Plan.ofBytes bytes).flags = 0 ∨ (Plan.ofBytes bytes).flags = 0x8000) :
    ∃ header : Header, header.Heads bytes := by
  have toNat (kind : ProfileKind) (same : kind.flags.toNat = (Plan.ofBytes bytes).flags) :
      ((Plan.ofBytes bytes).header kind).plan = Plan.ofBytes bytes := by
    simp [Plan.header, plan, same, Plan.ofBytes, UInt8.toNat_ofNat', UInt16.toNat_ofNat',
      Nat.mod_eq_of_lt, byteAt_lt, wordAt_lt]
  rcases flags with single | collection
  · exact ⟨(Plan.ofBytes bytes).header .single, enough, toNat _ single.symm⟩
  · exact ⟨(Plan.ofBytes bytes).header .collection, enough, toNat _ collection.symm⟩

theorem Heads.flags (heads : header.Heads bytes) :
    (Plan.ofBytes bytes).flags = 0 ∨ (Plan.ofBytes bytes).flags = 0x8000 := by
  rw [← heads.plan_eq, plan]
  cases header.kind
  · exact .inl rfl
  · exact .inr rfl

theorem plan_congr
    (same : ∀ index < 16, index ≠ 7 → bytes[index]? = other[index]?) :
    Plan.ofBytes bytes = Plan.ofBytes other := by
  have byte (index : Nat) (inside : index < 16) (read : index ≠ 7) :
      byteAt bytes index = byteAt other index := by
    rw [byteAt, same index inside read, byteAt]
  simp [Plan.ofBytes, wordAt, byte]

theorem decoder_starves : Decoder.Starves decoder 0 16 := by
  have starves : Decoder.Starves decoder 0
      (2 + (1 + (1 + (1 + (1 + (1 + (1 + (2 + (2 + (2 + (2 + 0))))))))))) := by
    refine Decoder.reads_word.starves_bind fun _ => ?_
    refine Decoder.reads_byte.starves_bind fun _ => ?_
    refine Decoder.reads_byte.starves_bind fun _ => ?_
    refine Decoder.reads_byte.starves_bind fun _ => ?_
    refine Decoder.reads_byte.starves_bind fun _ => ?_
    refine Decoder.reads_byte.starves_bind fun _ => ?_
    refine Decoder.reads_byte.starves_bind fun _ => ?_
    refine Decoder.reads_word.starves_bind fun _ => ?_
    refine Decoder.reads_word.starves_bind fun _ => ?_
    refine Decoder.reads_word.starves_bind fun _ => ?_
    refine Decoder.reads_word.starves_bind fun _ => ?_
    exact Decoder.starves_zero _ _
  exact starves

end Header

/-! Profile records. -/

namespace ProfileRecord

variable {kind : ProfileKind} {operationCount : Nat}

def readFrom (kind : ProfileKind) (operationCount : Nat) :
    (index position count : Nat) → List UInt8 → List ProfileRecord
  | _, _, 0, _ => []
  | index, position, count + 1, bytes =>
      ofWords kind index position (wordsOf (bytes.take (length kind operationCount))) ::
        readFrom kind operationCount (index + 1) (position + length kind operationCount) count
          (bytes.drop (length kind operationCount))

theorem reads_decoder (kind : ProfileKind) (operationCount index position : Nat) :
    (decoder kind operationCount index).Reads position (length kind operationCount) fun bytes =>
      ProfileRecord.ofWords kind index position (wordsOf bytes) := by
  have step := (Decoder.reads_position position).bind fun found =>
    (Decoder.reads_take position (length kind operationCount)).bind fun bytes =>
      Decoder.Reads.pure _ (ProfileRecord.ofWords kind index found (wordsOf bytes))
  rw [Nat.add_zero, Nat.zero_add] at step
  exact step.congr fun bytes enough => by simp [← enough]

theorem reads_decoderFrom (index position count : Nat) :
    (decoderFrom kind operationCount index count).Reads position
      (length kind operationCount * count) (readFrom kind operationCount index position count) := by
  induction count generalizing index position with
  | zero => exact .pure position []
  | succ count ih =>
      have unfolded : decoderFrom kind operationCount index (count + 1) =
          (decoder kind operationCount index >>= fun first =>
            decoderFrom kind operationCount (index + 1) count >>= fun rest =>
              pure (first :: rest)) := rfl
      have step := (reads_decoder kind operationCount index position).bind fun first =>
        (ih (index + 1) (position + length kind operationCount)).bind fun rest =>
          Decoder.Reads.pure _ (first :: rest)
      rw [unfolded, Nat.mul_succ, Nat.add_comm (length kind operationCount * count)]
      refine step.congr fun bytes enough => ?_
      have left : (bytes.drop (length kind operationCount)).length =
          length kind operationCount * count := by
        rw [List.length_drop, enough]
        omega
      rw [readFrom, List.take_of_length_le (Nat.le_of_eq left)]

end ProfileRecord

/-! All the sections. -/

structure Sections where
  front : List UInt8
  regexes : List UInt8
  variablePlaces : List UInt8
  variableStates : List UInt8
  entitlementPlaces : List UInt8
  instructions : List UInt8
  profiles : List UInt8
  padding : List UInt8
  nodes : List UInt8
  blocks : List UInt8
  data : List UInt8

namespace Sections

def bytes (sections : Sections) : List UInt8 :=
  sections.front ++ (sections.regexes ++ (sections.variablePlaces ++ (sections.variableStates ++
    (sections.entitlementPlaces ++ (sections.instructions ++ (sections.profiles ++
      (sections.padding ++ (sections.nodes ++ (sections.blocks ++ sections.data)))))))))

structure Fits (sections : Sections) (header : Header) : Prop where
  front : sections.front.length = 16
  regexes : sections.regexes.length = 2 * header.regexCount.toNat
  variablePlaces : sections.variablePlaces.length = 2 * header.variableCount.toNat
  variableStates : sections.variableStates.length = 2 * header.variableStateCount.toNat
  entitlementPlaces : sections.entitlementPlaces.length = 2 * header.entitlementCount.toNat
  instructions : sections.instructions.length = 2 * header.instructionCount.toNat
  profiles : sections.profiles.length =
    ProfileRecord.length header.kind header.operationCount.toNat * header.recordCount
  padding : sections.padding.length = header.plan.nodesOffset - header.plan.recordsEnd
  nodes : sections.nodes.length = Image.nodeLength * header.nodeCount.toNat
  blocks : sections.blocks.length = Image.blockLength * header.blockCount.toNat

def image (sections : Sections) (header : Header) (variableNames entitlements : List String) :
    Image where
  header := header
  regexes := wordsOf sections.regexes
  variablePlaces := wordsOf sections.variablePlaces
  variableNames := variableNames
  variableStates := wordsOf sections.variableStates
  entitlementPlaces := wordsOf sections.entitlementPlaces
  entitlements := entitlements
  instructions := wordsOf sections.instructions
  profiles := ProfileRecord.readFrom header.kind header.operationCount.toNat 0
    header.plan.recordsOffset header.recordCount sections.profiles
  nodes :=
    (Decoder.parts Image.nodeLength header.nodeCount.toNat sections.nodes).filterMap Node.decode?
  nodesOffset := header.plan.nodesOffset
  blocks := Decoder.parts Image.blockLength header.blockCount.toNat sections.blocks
  blocksOffset := header.plan.blocksOffset
  data := ⟨sections.data⟩
  dataOffset := header.plan.dataOffset

def read (sections : Sections) (header : Header) : Except BytecodeError Image := do
  let variableNames ← (wordsOf sections.variablePlaces).mapM (DataArea.mk sections.data).text
  let entitlements ← (wordsOf sections.entitlementPlaces).mapM (DataArea.mk sections.data).text
  return sections.image header variableNames entitlements

variable {sections : Sections} {header : Header}

theorem nodes_of_partValues (size position count : Nat) (bytes : List UInt8) :
    (Decoder.partValues size Prod.mk position count bytes).filterMap
        (fun record => Node.decode? record.2) =
      (Decoder.parts size count bytes).filterMap Node.decode? := by
  rw [← Decoder.map_snd_partValues, List.filterMap_map]
  rfl

theorem Fits.aligned (fits : sections.Fits header) (rest : List UInt8) :
    Decoder.align 8 (.reading header.plan.recordsEnd (sections.padding ++ rest)) =
      .ok () (.reading header.plan.nodesOffset rest) := by
  have aligned := (Decoder.reads_align header.plan.recordsEnd).of_append fits.padding rest
  have after : header.plan.recordsEnd + (roundUp header.plan.recordsEnd - header.plan.recordsEnd) =
      header.plan.nodesOffset := Nat.add_sub_cancel' (le_roundUp _)
  rwa [after] at aligned

theorem ofBytes_bytes (fits : sections.Fits header)
    (readHeader : ∀ rest, Header.decoder (.reading 0 (sections.front ++ rest)) =
      .ok header (.reading 16 rest)) :
    Image.ofBytes sections.bytes = sections.read header := by
  rw [Image.ofBytes, ByteReader.ofBytes_eq, bytes, EStateM.run, Image.decoder,
    bind_of_ok (readHeader _),
    bind_of_ok ((Decoder.reads_words _).of_append fits.regexes _),
    bind_of_ok ((Decoder.reads_words _).of_append fits.variablePlaces _),
    bind_of_ok ((Decoder.reads_words _).of_append fits.variableStates _),
    bind_of_ok ((Decoder.reads_words _).of_append fits.entitlementPlaces _),
    bind_of_ok ((Decoder.reads_words _).of_append fits.instructions _),
    header.tables_end,
    bind_of_ok ((ProfileRecord.reads_decoderFrom 0 _ _).of_append fits.profiles _),
    header.records_end, bind_of_ok (fits.aligned _), bind_of_ok (Decoder.position_apply _),
    bind_of_ok ((Decoder.reads_records _ _ _).of_append fits.nodes _),
    bind_of_ok (Decoder.position_apply _),
    bind_of_ok ((Decoder.reads_records _ _ _).of_append fits.blocks _),
    bind_of_ok (Decoder.position_apply _), bind_of_ok get_apply]
  simp only [ByteReader.reading_rest, nodes_of_partValues, Decoder.map_snd_partValues, read]
  cases (wordsOf sections.variablePlaces).mapM (DataArea.mk sections.data).text with
  | error => rfl
  | ok variableNames =>
      cases (wordsOf sections.entitlementPlaces).mapM (DataArea.mk sections.data).text with
      | error => rfl
      | ok entitlements => rfl

end Sections

namespace Image

variable {header : Header} {bytes : List UInt8}

theorem decoder_starved (heads : header.Heads bytes)
    (few : bytes.length < header.plan.dataOffset) :
    decoder.Starved 0 header.plan.dataOffset bytes := by
  have ends : header.plan.dataOffset = 16 + (2 * header.regexCount.toNat +
      (2 * header.variableCount.toNat + (2 * header.variableStateCount.toNat +
      (2 * header.entitlementCount.toNat + (2 * header.instructionCount.toNat +
      (ProfileRecord.length header.kind header.operationCount.toNat * header.recordCount +
      (header.plan.nodesOffset - header.plan.recordsEnd +
      (0 + (nodeLength * header.nodeCount.toNat +
      (0 + (blockLength * header.blockCount.toNat + 0))))))))))) := by
    have tables := header.tables_end
    have records := header.records_end
    have aligned : header.plan.recordsEnd ≤ header.plan.nodesOffset := le_roundUp _
    have data : header.plan.dataOffset = header.plan.nodesOffset + 8 * header.nodeCount.toNat +
      2048 * header.blockCount.toNat := rfl
    rw [nodeLength, blockLength]
    omega
  unfold decoder
  rw [ends] at few ⊢
  refine Decoder.Starves.after ?_ heads.decoder heads.enough few
  refine (Decoder.reads_words _).starves_bind fun _ => ?_
  refine (Decoder.reads_words _).starves_bind fun _ => ?_
  refine (Decoder.reads_words _).starves_bind fun _ => ?_
  refine (Decoder.reads_words _).starves_bind fun _ => ?_
  refine (Decoder.reads_words _).starves_bind fun _ => ?_
  rw [Nat.zero_add, header.tables_end]
  refine (ProfileRecord.reads_decoderFrom 0 _ _).starves_bind fun _ => ?_
  rw [header.records_end]
  refine (Decoder.reads_align _).starves_bind fun _ => ?_
  refine (Decoder.reads_position _).starves_bind fun _ => ?_
  refine (Decoder.reads_records _ _ _).starves_bind fun _ => ?_
  refine (Decoder.reads_position _).starves_bind fun _ => ?_
  refine (Decoder.reads_records _ _ _).starves_bind fun _ => ?_
  exact Decoder.starves_zero _ _

theorem ofBytes_starved {size : Nat} (starved : decoder.Starved 0 size bytes) :
    ∃ needed position, ofBytes bytes = .error (.tooSmall needed position bytes.length) ∧
      bytes.length < position + needed ∧ position + needed ≤ size := by
  obtain ⟨needed, position, after, failed, missing, wanted⟩ := starved
  rw [Nat.zero_add] at failed missing wanted
  exact ⟨needed, position, by rw [ofBytes, ByteReader.ofBytes_eq, EStateM.run, failed], missing,
    wanted⟩

end Image

end SandboxPolicy
