import Mathlib
import SandboxPolicy.Proofs.Consistency
import SandboxPolicy.Proofs.Dissected

/-!
Where the items of a dissection are. Each is shown with the offset at which its bytes begin, and
whoever reads there finds what the item says.
-/

namespace SandboxPolicy

variable {bytes : List UInt8}

/-! Bytes at a place. -/

structure BlobAt (bytes : List UInt8) (start : Nat) (content : List UInt8) : Prop where
  length_eq : wordAt bytes start = content.length
  content_eq : slice bytes (start + 2) (start + 2 + content.length) = content
  within : start + 2 + content.length ≤ bytes.length

theorem slice_eq (start size : Nat) :
    slice bytes start (start + size) = (bytes.drop start).take size := by
  rw [slice, List.drop_take, Nat.add_sub_cancel_left]

theorem take_drop_slice {start stop skipped size : Nat} (inside : start + skipped + size ≤ stop) :
    ((slice bytes start stop).drop skipped).take size =
      (bytes.drop (start + skipped)).take size := by
  rw [slice, List.drop_drop, List.drop_take, List.take_take, Nat.min_eq_left (by omega)]

theorem slice_word {start stop count index : Nat} (within : stop ≤ bytes.length)
    (counted : start + 2 * count = stop)
    (bound : index < (wordsOf (slice bytes start stop)).length) :
    ((wordsOf (slice bytes start stop))[index]).toNat = wordAt bytes (start + 2 * index) := by
  have words := slice_words count within counted
  have few : index < count := by
    have lengths := congrArg List.length words
    rw [List.length_map, List.length_map, List.length_range] at lengths
    omega
  have same := congrArg (fun found => found[index]?) words
  simpa [bound, few] using same

namespace DataArea

theorem blobAt_of_blob {offset : Nat} {place : UInt16} {content : List UInt8}
    (stored : (DataArea.mk (bytes.drop offset)).blob place = .ok content) :
    BlobAt bytes (offset + position place) content := by
  rw [blob_drop rfl] at stored
  split at stored
  next within =>
    rw [blobEnd] at within stored
    have length : content.length = wordAt bytes (offset + position place) := by
      rw [← Except.ok.inj stored, slice_length within, Nat.add_sub_cancel_left]
    refine ⟨length.symm, ?_, ?_⟩
    · rw [length]
      exact Except.ok.inj stored
    · rw [length]
      exact within
  next => cases stored

theorem blob_of_text {area : DataArea} {place : UInt16} {value : String}
    (read : area.text place = .ok value) : area.blob place = .ok (utf8Bytes value) := by
  obtain ⟨content, stored, decoded⟩ := Outcome.bind_eq_ok.mp read
  cases found : utf8Text? content with
  | none =>
      rw [found] at decoded
      cases decoded
  | some text =>
      rw [found] at decoded
      rw [stored, ← Except.ok.inj decoded, utf8Bytes_of_utf8Text? found]

end DataArea

/-! What an item says about the bytes at its offset. -/

namespace Item

def TextIn (bytes : List UInt8) : Item → Prop
  | .text _ offset value => BlobAt bytes offset (utf8Bytes value)
  | _ => False

def DataIn (bytes : List UInt8) : Item → Prop
  | .data _ offset content => BlobAt bytes offset content
  | _ => False

def UnreadableIn (bytes : List UInt8) : Item → Prop
  | .data _ offset content => BlobAt bytes offset content ∧ ∀ text, utf8Bytes text ≠ content
  | _ => False

/-- A record that is read at the offset has the mask and the entries. Its operations are those of
the table, and its name is in the data unless there is only one profile. -/
def RecordIn (bytes : List UInt8) (header : Header) (table : OperationTable) : Item → Prop
  | .profile index offset name syscallMask operations =>
      ∃ record after,
        ProfileRecord.decoder header.kind header.operationCount.toNat index
            ⟨offset, bytes.drop offset, bytes.length⟩ = .ok record after ∧
          record.syscallMask = syscallMask ∧
          record.operations = operations.map NamedOperation.entry ∧
          operations.map NamedOperation.name = table.names ∧
          operations.map NamedOperation.slot = List.range table.size ∧
          match record.nameOffset with
          | none => name = Image.singleName
          | some place => BlobAt bytes (textStart bytes place.toNat) (utf8Bytes name)
  | _ => False

def NodeIn (bytes : List UInt8) : Item → Prop
  | .node _ offset entry =>
      offset + 8 ≤ bytes.length ∧ Node.decode? (slice bytes offset (offset + 8)) = some entry
  | _ => False

def BlockIn (bytes : List UInt8) : Item → Prop
  | .data _ offset content =>
      offset + 2048 ≤ bytes.length ∧ slice bytes offset (offset + 2048) = content
  | _ => False

def Listed (bytes : List UInt8) (start : Nat) (item : Item) : Prop :=
  item.offset = textStart bytes (wordAt bytes (start + 2 * item.index))

def Placed (start size : Nat) (item : Item) : Prop := item.offset = start + size * item.index

end Item

/-- Items that are numbered from zero, each of them inside the bytes and shown as it is there. -/
structure Section (bytes : List UInt8) (count : Nat) (Shown : Item → Prop) (items : List Item) :
    Prop where
  numbered : items.map Item.index = List.range count
  inside : ∀ item ∈ items, item.offset < bytes.length
  shown : ∀ item ∈ items, Shown item

structure Dissection.Exact (bytes : List UInt8) (table : OperationTable)
    (dissection : Dissection) : Prop where
  header : dissection.header.Heads bytes
  regexes : Section bytes (Plan.ofBytes bytes).regexCount
    (fun item => item.Listed bytes 16 ∧ (item.TextIn bytes ∨ item.UnreadableIn bytes))
    dissection.regexes
  variableNames : Section bytes (Plan.ofBytes bytes).variableCount
    (fun item => item.Listed bytes (Plan.ofBytes bytes).variablesOffset ∧ item.TextIn bytes)
    dissection.variableNames
  variableStates : Section bytes (Plan.ofBytes bytes).variableStateCount
    (fun item => item.Listed bytes (Plan.ofBytes bytes).statesOffset ∧ item.DataIn bytes)
    dissection.variableStates
  entitlements : Section bytes (Plan.ofBytes bytes).entitlementCount
    (fun item => item.Listed bytes (Plan.ofBytes bytes).entitlementsOffset ∧ item.TextIn bytes)
    dissection.entitlements
  instructions : Section bytes (Plan.ofBytes bytes).instructionCount
    (fun item => item.Listed bytes (Plan.ofBytes bytes).instructionsOffset ∧ item.DataIn bytes)
    dissection.instructions
  profiles : Section bytes (Plan.ofBytes bytes).recordCount
    (fun item =>
      item.Placed (Plan.ofBytes bytes).recordsOffset (Plan.ofBytes bytes).recordLength ∧
        item.RecordIn bytes dissection.header table)
    dissection.profiles
  operationEntries : Section bytes (Plan.ofBytes bytes).nodeCount
    (fun item => item.Placed (Plan.ofBytes bytes).nodesOffset 8 ∧ item.NodeIn bytes)
    dissection.operationEntries
  blocks : Section bytes (Plan.ofBytes bytes).blockCount
    (fun item => item.Placed (Plan.ofBytes bytes).blocksOffset 2048 ∧ item.BlockIn bytes)
    dissection.blocks

/-! Tables of places. -/

theorem Section.of_getElem {count : Nat} {Shown : Item → Prop} {items : List Item}
    (counted : items.length = count)
    (each : ∀ index (bound : index < items.length), items[index].index = index ∧
      items[index].offset < bytes.length ∧ Shown items[index]) :
    Section bytes count Shown items where
  numbered := by
    refine List.ext_getElem (by simp [counted]) fun index bound _ => ?_
    rw [List.length_map] at bound
    rw [List.getElem_map, List.getElem_range, (each index bound).1]
  inside := by
    intro item member
    obtain ⟨index, bound, rfl⟩ := List.mem_iff_getElem.mp member
    exact (each index bound).2.1
  shown := by
    intro item member
    obtain ⟨index, bound, rfl⟩ := List.mem_iff_getElem.mp member
    exact (each index bound).2.2

namespace Item

variable {item : Item}

theorem TextIn.inside (stored : item.TextIn bytes) : item.offset < bytes.length := by
  cases item with
  | text index offset value =>
      have within := stored.within
      rw [Item.offset]
      omega
  | data | profile | node => exact stored.elim

theorem DataIn.inside (stored : item.DataIn bytes) : item.offset < bytes.length := by
  cases item with
  | data index offset content =>
      have within := stored.within
      rw [Item.offset]
      omega
  | text | profile | node => exact stored.elim

theorem UnreadableIn.dataIn (stored : item.UnreadableIn bytes) : item.DataIn bytes := by
  cases item with
  | data index offset content => exact stored.1
  | text | profile | node => exact stored.elim

end Item

namespace Dissection

variable {image : Image} {index : Nat} {place : UInt16} {item : Item}

section Shown

variable (data : image.data = ⟨bytes.drop image.dataOffset⟩)
include data

theorem textItem_shows (shown : textItem image index place = .ok item) :
    item.index = index ∧ item.offset = image.dataPosition place ∧ item.TextIn bytes := by
  obtain ⟨value, read, shown⟩ := Outcome.bind_eq_ok.mp shown
  obtain rfl := Except.ok.inj shown
  have stored := DataArea.blob_of_text read
  rw [data] at stored
  exact ⟨rfl, rfl, DataArea.blobAt_of_blob stored⟩

theorem dataItem_shows (shown : dataItem image index place = .ok item) :
    item.index = index ∧ item.offset = image.dataPosition place ∧ item.DataIn bytes := by
  obtain ⟨content, stored, shown⟩ := Outcome.bind_eq_ok.mp shown
  obtain rfl := Except.ok.inj shown
  rw [data] at stored
  exact ⟨rfl, rfl, DataArea.blobAt_of_blob stored⟩

theorem regexItem_shows (shown : regexItem image index place = .ok item) :
    item.index = index ∧ item.offset = image.dataPosition place ∧
      (item.TextIn bytes ∨ item.UnreadableIn bytes) := by
  obtain ⟨content, stored, shown⟩ := Outcome.bind_eq_ok.mp shown
  rw [data] at stored
  have blobAt := DataArea.blobAt_of_blob stored
  cases decoded : utf8Text? content with
  | some value =>
      simp only [decoded] at shown
      obtain rfl := Except.ok.inj shown
      obtain rfl := utf8Bytes_of_utf8Text? decoded
      exact ⟨rfl, rfl, .inl blobAt⟩
  | none =>
      simp only [decoded] at shown
      obtain rfl := Except.ok.inj shown
      exact ⟨rfl, rfl, .inr ⟨blobAt, utf8Text?_eq_none_iff.mp decoded⟩⟩

end Shown

theorem itemsOf_getElem {α : Type} {make : Nat → α → Except BytecodeError Item}
    {entries : List α} {items : List Item} (shown : itemsOf make entries = .ok items) :
    ∃ same : items.length = entries.length, ∀ index (bound : index < items.length),
      make index (entries.get ⟨index, same ▸ bound⟩) = .ok items[index] := by
  obtain ⟨same, each⟩ := List.forall₂_iff_get.mp (Outcome.mapM_eq_ok.mp shown)
  rw [List.length_zipIdx] at same
  refine ⟨same.symm, fun index bound => ?_⟩
  have entry := each index (by rw [List.length_zipIdx]; omega) bound
  simpa using entry

theorem section_of_table {make : Nat → UInt16 → Except BytecodeError Item}
    {Shown : Item → Prop} {start stop count : Nat} {items : List Item}
    (exact : ∀ {index place item}, make index place = .ok item →
      item.index = index ∧ item.offset = image.dataPosition place ∧ Shown item)
    (inside : ∀ item, Shown item → item.offset < bytes.length)
    (starts : image.dataOffset = (Plan.ofBytes bytes).dataOffset)
    (within : stop ≤ bytes.length) (counted : start + 2 * count = stop)
    (shown : itemsOf make (wordsOf (slice bytes start stop)) = .ok items) :
    Section bytes count (fun item => item.Listed bytes start ∧ Shown item) items := by
  obtain ⟨same, each⟩ := itemsOf_getElem shown
  refine .of_getElem ?_ fun index bound => ?_
  · rw [same]
    exact wordsOf_length count _ (by rw [slice_length within]; omega)
  · obtain ⟨numbered, offset, content⟩ := exact (each index bound)
    refine ⟨numbered, inside _ content, ?_, content⟩
    rw [Item.Listed, offset, numbered, ← slice_word within counted (same ▸ bound),
      Image.dataPosition, starts]
    rfl

end Dissection

/-! Profiles, nodes and blocks. -/

theorem Decoder.parts_length (size count : Nat) (bytes : List UInt8) :
    (parts size count bytes).length = count := by
  induction count generalizing bytes with
  | zero => rfl
  | succ count ih => rw [parts, List.length_cons, ih]

theorem Decoder.parts_getElem (size count index : Nat) (bytes : List UInt8)
    (bound : index < (parts size count bytes).length) :
    (parts size count bytes)[index] = (bytes.drop (size * index)).take size := by
  induction count generalizing bytes index with
  | zero => exact absurd bound (Nat.not_lt_zero _)
  | succ count ih =>
      cases index with
      | zero => rfl
      | succ index =>
          have later : index < (parts size count (bytes.drop size)).length :=
            Nat.lt_of_succ_lt_succ bound
          simp only [parts, List.getElem_cons_succ]
          rw [ih index (bytes.drop size) later, List.drop_drop, Nat.mul_succ,
            Nat.add_comm (size * index)]

theorem part_le {start stop size count index : Nat} (ends : start + size * count = stop)
    (few : index < count) : start + size * index + size ≤ stop := by
  rw [← ends, Nat.add_assoc, ← Nat.mul_succ]
  exact Nat.add_le_add_left (Nat.mul_le_mul_left _ few) _

theorem Decoder.parts_slice {start stop size count index : Nat}
    (ends : start + size * count = stop)
    (bound : index < (parts size count (slice bytes start stop)).length) :
    (parts size count (slice bytes start stop))[index] =
      slice bytes (start + size * index) (start + size * index + size) := by
  have few : index < count := by rwa [parts_length] at bound
  rw [parts_getElem, take_drop_slice (part_le ends few), slice_eq]

theorem Node.decode?_isSome (part : List UInt8) (length : part.length = 8) :
    (decode? part).isSome := by
  match part, length with
  | [_, _, _, _, _, _, _, _], _ => rfl

theorem forall₂_filterMap {α β : Type} {f : α → Option β} {inputs : List α}
    (total : ∀ input ∈ inputs, (f input).isSome) :
    List.Forall₂ (fun input result => f input = some result) inputs (inputs.filterMap f) := by
  induction inputs with
  | nil => exact .nil
  | cons first rest ih =>
      obtain ⟨result, found⟩ := Option.isSome_iff_exists.mp (total first List.mem_cons_self)
      rw [List.filterMap_cons_some found]
      exact .cons found (ih fun input member => total input (List.mem_cons_of_mem _ member))

theorem OperationTable.size_pos (table : OperationTable) : 0 < table.size := by
  obtain ⟨rest, names⟩ := List.head?_eq_some_iff.mp table.first
  rw [size, names]
  exact Nat.succ_pos _

namespace ProfileRecord

variable {kind : ProfileKind} {operationCount : Nat}

theorem readFrom_length (index position count : Nat) (bytes : List UInt8) :
    (readFrom kind operationCount index position count bytes).length = count := by
  induction count generalizing index position bytes with
  | zero => rfl
  | succ count ih => rw [readFrom, List.length_cons, ih]

theorem readFrom_getElem (first position count index : Nat) (bytes : List UInt8)
    (bound : index < (readFrom kind operationCount first position count bytes).length) :
    (readFrom kind operationCount first position count bytes)[index] =
      ofWords kind (first + index) (position + length kind operationCount * index)
        (wordsOf ((bytes.drop (length kind operationCount * index)).take
          (length kind operationCount))) := by
  induction count generalizing first position bytes index with
  | zero => exact absurd bound (Nat.not_lt_zero _)
  | succ count ih =>
      cases index with
      | zero => rfl
      | succ index =>
          have later : index < (readFrom kind operationCount (first + 1)
              (position + length kind operationCount) count
              (bytes.drop (length kind operationCount))).length :=
            Nat.lt_of_succ_lt_succ bound
          simp only [readFrom, List.getElem_cons_succ]
          rw [ih _ _ index _ later, List.drop_drop, Nat.mul_succ,
            Nat.add_comm (length kind operationCount * index), Nat.add_assoc, Nat.add_assoc,
            Nat.add_comm 1]

theorem ofWords_place (index offset : Nat) (words : List UInt16) :
    (ofWords kind index offset words).index = index ∧
      (ofWords kind index offset words).offset = offset := by
  unfold ofWords
  split <;> exact ⟨rfl, rfl⟩

theorem length_pos (some : 0 < operationCount) : 0 < length kind operationCount := by
  cases kind
  · exact Nat.mul_pos (Nat.succ_pos 1) some
  · exact Nat.lt_of_lt_of_le (Nat.succ_pos 5) (Nat.le_add_right 6 _)

theorem decoder_at {index offset : Nat}
    (within : offset + length kind operationCount ≤ bytes.length) :
    ∃ after, decoder kind operationCount index ⟨offset, bytes.drop offset, bytes.length⟩ =
      .ok (ofWords kind index offset
        (wordsOf ((bytes.drop offset).take (length kind operationCount)))) after := by
  have left : (bytes.drop offset).length = bytes.length - offset := List.length_drop
  have reader : (⟨offset, bytes.drop offset, bytes.length⟩ : ByteReader) =
      .reading offset (bytes.drop offset) := by
    rw [ByteReader.reading, left, Nat.add_sub_cancel' (by omega)]
  rw [reader]
  exact ⟨_, (reads_decoder kind operationCount index offset).whole _ (by omega)⟩

theorem decoder_again {start stop count index : Nat} {record : ProfileRecord}
    (ends : start + length kind operationCount * count = stop) (within : stop ≤ bytes.length)
    (found : (readFrom kind operationCount 0 start count (slice bytes start stop))[index]? =
      some record) :
    record.index = index ∧ record.offset = start + length kind operationCount * index ∧
      record.offset + length kind operationCount ≤ bytes.length ∧
      ∃ after, decoder kind operationCount record.index
        ⟨record.offset, bytes.drop record.offset, bytes.length⟩ = .ok record after := by
  obtain ⟨bound, rfl⟩ := List.getElem?_eq_some_iff.mp found
  have few : index < count := by rwa [readFrom_length] at bound
  have last := part_le ends few
  rw [readFrom_getElem, take_drop_slice last, Nat.zero_add]
  obtain ⟨numbered, placed⟩ := @ofWords_place kind index
    (start + length kind operationCount * index)
    (wordsOf ((bytes.drop (start + length kind operationCount * index)).take
      (length kind operationCount)))
  refine ⟨numbered, placed, ?_, ?_⟩
  · rw [placed]
    omega
  · rw [numbered, placed]
    exact decoder_at (by omega)

end ProfileRecord

namespace Dissection

variable {image : Image} {table : OperationTable} {record : ProfileRecord} {item : Item}

theorem profileItem_shows (data : image.data = ⟨bytes.drop image.dataOffset⟩)
    (starts : image.dataOffset = (Plan.ofBytes bytes).dataOffset)
    (sized : record.operations.length = table.size) {after : ByteReader}
    (read : ProfileRecord.decoder image.header.kind image.header.operationCount.toNat record.index
      ⟨record.offset, bytes.drop record.offset, bytes.length⟩ = .ok record after)
    (shown : profileItem image table record = .ok item) :
    item.index = record.index ∧ item.offset = record.offset ∧
      item.RecordIn bytes image.header table := by
  obtain ⟨name, named, shown⟩ := Outcome.bind_eq_ok.mp shown
  obtain rfl := Except.ok.inj shown
  refine ⟨rfl, rfl, record, after, read, rfl, ?_, ?_, ?_, ?_⟩
  · rw [List.map_map]
    exact List.zipIdx_map_fst 0 record.operations |>.symm
  · refine List.ext_getElem (by simp [sized, OperationTable.size]) fun index bound _ => ?_
    have inside : index < table.names.length := by assumption
    simp [OperationTable.name?, inside]
  · refine List.ext_getElem (by simp [sized]) fun index bound _ => ?_
    simp
  · rw [Image.profileName] at named
    cases place : record.nameOffset with
    | none =>
        rw [place] at named
        exact (Except.ok.inj named).symm
    | some place' =>
        rw [place] at named
        have stored := DataArea.blob_of_text named
        rw [data, starts] at stored
        exact DataArea.blobAt_of_blob stored

theorem section_of_zipIdx {α : Type} {entries : List α} {count : Nat} {Shown : Item → Prop}
    (make : α → Nat → Item) (counted : entries.length = count)
    (each : ∀ index (bound : index < entries.length),
      (make entries[index] index).index = index ∧
        (make entries[index] index).offset < bytes.length ∧ Shown (make entries[index] index)) :
    Section bytes count Shown (entries.zipIdx.map fun entry => make entry.1 entry.2) := by
  refine .of_getElem (by simp [counted]) fun index bound => ?_
  rw [List.length_map, List.length_zipIdx] at bound
  simpa using each index bound

section Image

variable {dissection : Dissection} {header : Header} {variableNames entitlements : List String}
  (enough : header.plan.dataOffset ≤ bytes.length)
  (shows : dissection.Shows
    ((Sections.cut header.plan bytes).image header variableNames entitlements) table)
include enough shows

theorem Shows.blocks_section : Section bytes header.plan.blockCount
    (fun item => item.Placed header.plan.blocksOffset 2048 ∧ item.BlockIn bytes)
    dissection.blocks := by
  have ends : header.plan.blocksOffset + 2048 * header.plan.blockCount =
      header.plan.dataOffset := rfl
  rw [shows.blocks]
  refine section_of_zipIdx
    (fun block index => .data index (header.plan.blocksOffset + index * 2048) block)
    (Decoder.parts_length _ _ _) fun index bound => ?_
  have few : index < header.plan.blockCount := by
    rwa [Sections.image, Decoder.parts_length] at bound
  have last := part_le ends few
  rw [Nat.mul_comm index]
  refine ⟨rfl, ?_, rfl, ?_, ?_⟩
  · rw [Item.offset]
    omega
  · omega
  · exact (Decoder.parts_slice ends bound).symm

theorem Shows.nodes_section : Section bytes header.plan.nodeCount
    (fun item => item.Placed header.plan.nodesOffset 8 ∧ item.NodeIn bytes)
    dissection.operationEntries := by
  have ends : header.plan.nodesOffset + 8 * header.plan.nodeCount =
      header.plan.blocksOffset := rfl
  have blocks := header.plan.ordered.blocks
  let parts := Decoder.parts 8 header.plan.nodeCount
    (slice bytes header.plan.nodesOffset header.plan.blocksOffset)
  have last (index : Nat) (bound : index < parts.length) :
      header.plan.nodesOffset + 8 * index + 8 ≤ bytes.length := by
    rw [Decoder.parts_length] at bound
    exact (part_le ends bound).trans (by omega)
  have decoded : ∀ found ∈ parts, (Node.decode? found).isSome := by
    intro found member
    obtain ⟨index, bound, rfl⟩ := List.mem_iff_getElem.mp member
    refine Node.decode?_isSome _ ?_
    rw [Decoder.parts_slice ends bound, slice_length (last index bound), Nat.add_sub_cancel_left]
  obtain ⟨same, each⟩ := List.forall₂_iff_get.mp (forall₂_filterMap decoded)
  rw [shows.operationEntries]
  refine section_of_zipIdx
    (fun node index => .node index (header.plan.nodesOffset + index * 8) node)
    (same.symm.trans (Decoder.parts_length _ _ _)) fun index bound => ?_
  have inside : index < parts.length := same ▸ bound
  have within := last index inside
  rw [Nat.mul_comm index]
  refine ⟨rfl, ?_, rfl, within, ?_⟩
  · rw [Item.offset]
    omega
  · rw [← Decoder.parts_slice ends inside]
    exact each index inside bound

theorem Shows.profiles_section (heads : header.Heads bytes) (operations : ∀ record ∈
      ((Sections.cut header.plan bytes).image header variableNames entitlements).profiles,
      record.operations.length = header.operationCount.toNat) :
    Section bytes header.plan.recordCount
      (fun item => item.Placed header.plan.recordsOffset header.plan.recordLength ∧
        item.RecordIn bytes dissection.header table)
      dissection.profiles := by
  obtain ⟨_, _, _, _, _, _, padding, nodes, blocks⟩ := header.plan.ordered
  obtain ⟨same, each⟩ := List.forall₂_iff_get.mp (Outcome.mapM_eq_ok.mp shows.profiles)
  refine .of_getElem ?_ fun index bound => ?_
  · rw [← same, header.plan_recordCount]
    exact ProfileRecord.readFrom_length _ _ _ _
  · have inside := same ▸ bound
    obtain ⟨numbered, placed, ends, after, read⟩ := ProfileRecord.decoder_again
      header.records_end (by omega) (List.getElem?_eq_getElem inside)
    have some : 0 < header.operationCount.toNat := shows.sized ▸ table.size_pos
    have size : 0 < ProfileRecord.length header.kind header.operationCount.toNat :=
      ProfileRecord.length_pos some
    obtain ⟨shownIndex, shownOffset, recorded⟩ := profileItem_shows rfl
      (congrArg Plan.dataOffset heads.plan_eq)
      ((operations _ (List.getElem_mem inside)).trans shows.sized) read (each index inside bound)
    have index_eq : dissection.profiles[index].index = index := shownIndex.trans numbered
    have offset_eq : dissection.profiles[index].offset = header.plan.recordsOffset +
        header.plan.recordLength * index := by
      rw [header.plan_recordLength]
      exact shownOffset.trans placed
    refine ⟨index_eq, ?_, ?_, ?_⟩
    · have inside : dissection.profiles[index].offset +
          ProfileRecord.length header.kind header.operationCount.toNat ≤ bytes.length :=
        shownOffset ▸ ends
      omega
    · rw [Item.Placed, index_eq, offset_eq]
    · rw [shows.header]
      exact recorded

theorem Shows.exact (heads : header.Heads bytes) (operations : ∀ record ∈
      ((Sections.cut header.plan bytes).image header variableNames entitlements).profiles,
      record.operations.length = header.operationCount.toNat) :
    dissection.Exact bytes table := by
  obtain ⟨_, _, _, _, _, _, _, _, _⟩ := header.plan.ordered
  have starts : header.plan.dataOffset = (Plan.ofBytes bytes).dataOffset :=
    congrArg Plan.dataOffset heads.plan_eq
  have tables : header.plan.recordsOffset ≤ bytes.length := by omega
  constructor
  · rw [shows.header]
    exact heads
  · rw [← heads.plan_eq]
    exact section_of_table (regexItem_shows rfl)
      (fun item shown => shown.elim Item.TextIn.inside fun raw => raw.dataIn.inside) starts
      (by omega) (by rw [Plan.variablesOffset]) shows.regexes
  · rw [← heads.plan_eq]
    exact section_of_table (textItem_shows rfl) (fun item => Item.TextIn.inside) starts
      (by omega) (by rw [Plan.variablesOffset, Plan.statesOffset]; omega) shows.variableNames
  · rw [← heads.plan_eq]
    exact section_of_table (dataItem_shows rfl) (fun item => Item.DataIn.inside) starts
      (by omega) (by rw [Plan.statesOffset, Plan.entitlementsOffset]; omega) shows.variableStates
  · rw [← heads.plan_eq]
    exact section_of_table (textItem_shows rfl) (fun item => Item.TextIn.inside) starts
      (by omega) (by rw [Plan.entitlementsOffset, Plan.instructionsOffset]; omega)
      shows.entitlements
  · rw [← heads.plan_eq]
    exact section_of_table (dataItem_shows rfl) (fun item => Item.DataIn.inside) starts
      (by omega) (by rw [Plan.instructionsOffset, Plan.recordsOffset]; omega) shows.instructions
  · rw [← heads.plan_eq]
    exact shows.profiles_section enough heads operations
  · rw [← heads.plan_eq]
    exact shows.nodes_section enough
  · rw [← heads.plan_eq]
    exact shows.blocks_section enough

end Image

theorem ofBytes_placed {dissection : Dissection}
    (dissected : ofBytes bytes table = .ok dissection) : dissection.Exact bytes table := by
  obtain ⟨image, accepted, dissected⟩ := Outcome.bind_eq_ok.mp dissected
  have operations := Image.ofBytes_operations accepted
  obtain ⟨header, heads, enough, read⟩ := Image.ofBytes_eq_ok.mp accepted
  obtain ⟨variableNames, entitlements, _, _, rfl⟩ := Sections.read_eq_ok.mp read
  exact (ofImage_shows dissected).exact enough heads operations

/-- A collection of one profile, which is named in the data behind the name of a variable. -/
def namedProfile : List UInt8 :=
  [0, 0x80, 1, 0, 1, 1, 0, 0, 1, 0, 0, 0, 0, 0, 0, 0, 0, 0, 1, 0, 5, 0, 0, 0, 0, 0, 0, 0, 0, 0, 0,
    0, 1, 0, 1, 0, 0, 0, 0, 0] ++ DataArea.encodeBlob [0x56] ++ DataArea.encodeBlob [0x70]

theorem ofBytes_placed_named : ∃ dissection,
    ofBytes namedProfile ⟨["default"], by decide, rfl, by decide⟩ = .ok dissection ∧
      dissection.Exact namedProfile ⟨["default"], by decide, rfl, by decide⟩ ∧
      dissection.profiles = [.profile 0 18 "p" 5 [⟨0, "default", 0⟩]] := by
  have accepted : (ofBytes namedProfile ⟨["default"], by decide, rfl, by decide⟩).isOk = true := by
    cbv
  obtain ⟨dissection, shown⟩ := Outcome.exists_of_isOk accepted
  refine ⟨dissection, shown, ofBytes_placed shown, ?_⟩
  have profiles := congrArg (Except.map Dissection.profiles) shown
  cbv at profiles
  exact (Except.ok.inj profiles).symm

end Dissection

end SandboxPolicy
