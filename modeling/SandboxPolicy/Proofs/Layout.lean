import SandboxPolicy.Proofs.BuilderSteps
import SandboxPolicy.Proofs.Outcome
import SandboxPolicy.Proofs.Sections

/-!
The bytes that a sound builder writes are read back as the parts that it holds.
-/

namespace SandboxPolicy

open Steps

theorem flatMap_length {α : Type} {encode : α → List UInt8} {size : Nat} (items : List α)
    (length : ∀ item ∈ items, (encode item).length = size) :
    (items.flatMap encode).length = size * items.length := by
  induction items with
  | nil => rfl
  | cons item rest ih =>
      rw [List.flatMap_cons, List.length_append, length item (by simp),
        ih fun other member => length other (List.mem_cons_of_mem _ member), List.length_cons,
        Nat.mul_succ, Nat.add_comm]

theorem map_eq_of_forall₂ {α β γ : Type} {relation : α → β → Prop} {left : α → γ} {right : β → γ}
    (agree : ∀ a b, relation a b → left a = right b) {as : List α} {bs : List β}
    (all : List.Forall₂ relation as bs) : as.map left = bs.map right := by
  induction all with
  | nil => rfl
  | cons first _ ih => rw [List.map_cons, List.map_cons, agree _ _ first, ih]

theorem flatMap_wordBytes_length (words : List UInt16) :
    (words.flatMap wordBytes).length = 2 * words.length :=
  flatMap_length words fun word _ => wordBytes_length word

theorem Node.encode_length (node : Node) : node.encode.length = Image.nodeLength := rfl

/-! The data. -/

namespace DataArea

theorem encodeBlob_length (bytes : List UInt8) :
    (encodeBlob bytes).length = 8 * width bytes := by
  rw [encodeBlob, padded_length, List.length_append, wordBytes_length, width, units, roundUp]
  omega

theorem encodeBlobs_length (blobs : List (List UInt8)) :
    (blobs.flatMap encodeBlob).length = 8 * Interner.extent width blobs := by
  induction blobs with
  | nil => rfl
  | cons bytes rest ih =>
      rw [List.flatMap_cons, List.length_append, encodeBlob_length, ih, Interner.extent_cons,
        Nat.mul_add]

theorem blob_of_standsAt {blobs : List (List UInt8)} {bytes : List UInt8} {place : UInt16}
    (stands : Interner.StandsAt width blobs bytes place.toNat) (short : bytes.length ≤ 65535) :
    (DataArea.mk (blobs.flatMap encodeBlob)).blob place = .ok bytes := by
  obtain ⟨before, after, split, start⟩ := stands
  have size : (UInt16.ofNat bytes.length).toNat = bytes.length := Builder.toNat_ofNat_of_le short
  have found : (blobs.flatMap encodeBlob).drop (position place) =
      encodeBlob bytes ++ after.flatMap encodeBlob := by
    rw [split, List.flatMap_append, List.flatMap_cons, position, start, ← encodeBlobs_length,
      List.drop_left]
  have word := wordOf_wordBytes (UInt16.ofNat bytes.length)
  rw [size] at word
  rw [blob, found, encodeBlob, padded_eq]
  simp only [wordBytes, List.cons_append, List.nil_append, size, word, List.append_assoc,
    List.take_left, if_true]

theorem text_of_standsAt {blobs : List (List UInt8)} {text : String} {place : UInt16}
    (stands : Interner.StandsAt width blobs (utf8Bytes text) place.toNat)
    (short : (utf8Bytes text).length ≤ 65535) :
    (DataArea.mk (blobs.flatMap encodeBlob)).text place = .ok text := by
  rw [DataArea.text, blob_of_standsAt stands short]
  simp only [bind, Except.bind, utf8Text?_utf8Bytes]
  rfl

end DataArea

/-! Profile records. -/

namespace ProfileRecord

structure Fits (record : ProfileRecord) (kind : ProfileKind) (operationCount : Nat) : Prop where
  operations : record.operations.length = operationCount
  named : match kind with
    | .single => record.nameOffset = none ∧ record.syscallMask = 0
    | .collection => record.nameOffset.isSome

def placed (size : Nat) : Nat → List ProfileRecord → List ProfileRecord
  | _, [] => []
  | position, record :: rest =>
      { record with offset := position } :: placed size (position + size) rest

variable {record : ProfileRecord} {kind : ProfileKind} {operationCount position : Nat}

theorem placed_map {α : Type} (property : ProfileRecord → α)
    (free : ∀ record position, property { record with offset := position } = property record)
    (size : Nat) (records : List ProfileRecord) :
    (placed size position records).map property = records.map property := by
  induction records generalizing position with
  | nil => rfl
  | cons record rest ih => rw [placed, List.map_cons, List.map_cons, free, ih]

theorem placed_length (size : Nat) (records : List ProfileRecord) :
    (placed size position records).length = records.length := by
  induction records generalizing position with
  | nil => rfl
  | cons record rest ih => rw [placed, List.length_cons, List.length_cons, ih]

theorem Fits.encode_length (fits : record.Fits kind operationCount) :
    record.encode.length = length kind operationCount := by
  have named := fits.named
  rw [encode, flatMap_wordBytes_length, List.length_append, fits.operations, preamble]
  cases kind with
  | single => simp [named.1, length]
  | collection =>
      obtain ⟨name, offset⟩ := Option.isSome_iff_exists.mp named
      simp only [offset, List.length_cons, List.length_nil, length]
      omega

theorem Fits.ofWords (fits : record.Fits kind operationCount) (index position : Nat) :
    ofWords kind index position (wordsOf record.encode) =
      { record with index := index, offset := position } := by
  have named := fits.named
  rw [encode, wordsOf_flatMap_wordBytes, preamble]
  cases kind with
  | single => simp [ProfileRecord.ofWords, named.1, named.2]
  | collection =>
      obtain ⟨name, offset⟩ := Option.isSome_iff_exists.mp named
      simp [ProfileRecord.ofWords, offset]

theorem readFrom_of_flatMap (index position : Nat) (records : List ProfileRecord)
    (fits : ∀ record ∈ records, record.Fits kind operationCount)
    (numbered : ∀ number record, records[number]? = some record → record.index = index + number) :
    readFrom kind operationCount index position records.length (records.flatMap encode) =
      placed (length kind operationCount) position records := by
  induction records generalizing position index with
  | nil => rfl
  | cons record others ih =>
      have shape := fits record (by simp)
      have later := ih (index + 1) (position + length kind operationCount)
        (fun other member => fits other (List.mem_cons_of_mem _ member))
        (fun number other found => by
          rw [numbered (number + 1) other (by simpa using found)]
          omega)
      have number : record.index = index := numbered 0 record rfl
      rw [List.length_cons, readFrom, List.flatMap_cons, List.take_left' shape.encode_length,
        List.drop_left' shape.encode_length, later, shape.ofWords, placed, ← number]

end ProfileRecord

theorem Header.decoder_of_encode (header : Header) (rest : List UInt8) :
    decoder (.reading 0 (header.encode ++ rest)) = .ok header (.reading 16 rest) := by
  obtain ⟨kind, _, _, _, _, _, _, _, _, _⟩ := header
  have flags : ProfileKind.ofFlags? kind.flags = some kind := by cases kind <;> rfl
  simp [decoder, encode, bind_apply, map_apply, Decoder.word, Decoder.byte, ByteReader.reading,
    wordBytes, wordOf_wordBytes, flags, Nat.add_comm 16]

namespace Builder

def image (builder : Builder) : Image where
  header := builder.header
  regexes := builder.regexTable.places.toList
  variablePlaces := builder.variableTable.places.toList
  variableNames := builder.textList .variable
  variableStates := []
  entitlementPlaces := builder.entitlementTable.places.toList
  entitlements := builder.textList .entitlement
  instructions := []
  profiles := ProfileRecord.placed
    (ProfileRecord.length builder.kind builder.operationCount.toNat)
    builder.header.plan.recordsOffset builder.profiles.toList
  nodes := builder.nodeList
  nodesOffset := builder.header.plan.nodesOffset
  blocks := []
  blocksOffset := builder.header.plan.blocksOffset
  data := ⟨builder.blobList.flatMap DataArea.encodeBlob⟩
  dataOffset := builder.header.plan.dataOffset

variable {builder : Builder}

theorem image_map {α : Type} (builder : Builder) (property : ProfileRecord → α)
    (free : ∀ record position, property { record with offset := position } = property record) :
    builder.image.profiles.map property = builder.profiles.toList.map property :=
  ProfileRecord.placed_map property free _ _

theorem HasBlob.blob (sound : builder.Sound) {place : UInt16} {bytes : List UInt8}
    (stored : builder.HasBlob place bytes) : builder.image.data.blob place = .ok bytes :=
  DataArea.blob_of_standsAt stored (sound.blob_le bytes stored.mem)

theorem HasBlob.text (sound : builder.Sound) {place : UInt16} {text : String}
    (stored : builder.HasBlob place (utf8Bytes text)) :
    builder.image.data.text place = .ok text :=
  DataArea.text_of_standsAt stored (sound.blob_le _ stored.mem)

theorem Sound.table_texts (sound : builder.Sound) (kind : TableKind) :
    (builder.table kind).places.toList.mapM builder.image.data.text =
      .ok (builder.textList kind) := by
  refine Outcome.mapM_eq_ok.mpr ((sound.tables kind).stored.flip.imp fun place text stands => ?_)
  exact HasBlob.text sound stands

theorem Sound.places_size (sound : builder.Sound) (kind : TableKind) :
    (builder.table kind).places.size = (builder.textList kind).length := by
  rw [← Array.length_toList]
  exact (sound.tables kind).stored.length_eq.symm

theorem Sound.places_le (sound : builder.Sound) (kind : TableKind) :
    (builder.table kind).places.size ≤ kind.limit := by
  rw [sound.places_size]
  exact (sound.tables kind).size_le

theorem Sound.record_fits (sound : builder.Sound) :
    ∀ record ∈ builder.profiles.toList,
      record.Fits builder.kind builder.operationCount.toNat := by
  intro record member
  obtain ⟨index, bound, rfl⟩ := List.mem_iff_getElem.mp member
  have held := sound.records index _ (List.getElem?_eq_getElem bound)
  obtain ⟨name, named⟩ := held.named
  refine ⟨held.operations, ?_⟩
  rw [Names] at named
  cases kindEq : builder.kind with
  | single =>
      simp only [kindEq] at named ⊢
      exact ⟨named, held.mask_eq⟩
  | collection =>
      simp only [kindEq] at named ⊢
      obtain ⟨place, offset, _⟩ := named
      rw [offset]
      rfl

theorem HasText.regex (sound : builder.Sound) {index : UInt16} {value : String}
    (held : builder.HasText .regex index value) : builder.image.regex index = .ok value := by
  obtain ⟨bound, _⟩ := List.getElem?_eq_some_iff.mp held
  have table := sound.tables .regex
  obtain ⟨same, stored⟩ := List.forall₂_iff_get.mp table.stored
  have place := stored index.toNat bound (same ▸ bound)
  have found : builder.image.regexes[index.toNat]? =
      some (builder.regexTable.places.toList.get ⟨index.toNat, same ▸ bound⟩) := by
    exact List.getElem?_eq_getElem (same ▸ bound)
  rw [Image.regex, found]
  have text : (builder.table .regex).texts.entries.toList.get ⟨index.toNat, bound⟩ = value := by
    exact (List.getElem?_eq_some_iff.mp held).2
  rw [text] at place
  exact HasBlob.text sound place

theorem Names.profileName (sound : builder.Sound) {record : ProfileRecord} {name : String}
    (named : builder.Names record name) :
    builder.image.profileName record =
      .ok (if builder.kind = .single then Image.singleName else name) := by
  rw [Names] at named
  cases kindEq : builder.kind with
  | single =>
      simp only [kindEq] at named
      rw [Image.profileName, named, if_pos rfl]
  | collection =>
      simp only [kindEq] at named
      obtain ⟨place, offset, stored⟩ := named
      rw [Image.profileName, offset, if_neg (by decide)]
      exact stored.text sound

theorem header_counts (sound : builder.Sound) :
    builder.header.nodeCount.toNat = builder.nodeList.length ∧
      builder.header.variableCount.toNat = builder.variableTable.places.toList.length ∧
      builder.header.regexCount.toNat = builder.regexTable.places.toList.length ∧
      builder.header.entitlementCount.toNat = builder.entitlementTable.places.toList.length := by
  have nodes := sound.nodes_le
  have regexes := sound.places_le .regex
  have names := sound.places_le .variable
  have entitlements := sound.places_le .entitlement
  simp only [nodeLimit, nodeList, Array.length_toList] at nodes
  simp only [TableKind.limit, Builder.table] at regexes names entitlements
  simp only [header, Array.length_toList, UInt8.toNat_ofNat', UInt16.toNat_ofNat', nodeList]
  omega

theorem narrow_of_le {table : String} {count limit : Nat} (small : count ≤ limit) :
    narrow table count limit = .ok () := if_pos small

/-- Of the counts of a sound builder, only that of its profiles may be too large. -/
theorem Sound.finish_eq (sound : builder.Sound) : builder.finish =
    if builder.profiles.isEmpty then .error .noProfile
    else if builder.kind = .collection ∧ 65535 < builder.profiles.size then
      .error (.overflow "profiles" builder.profiles.size 65535)
    else .ok builder.layout := by
  have nodes : builder.nodes.entries.size ≤ nodeLimit := by
    rw [← Array.length_toList]
    exact sound.nodes_le
  have names := sound.places_le .variable
  have regexes := sound.places_le .regex
  have entitlements := sound.places_le .entitlement
  simp only [Builder.table] at names regexes entitlements
  simp only [finish, narrow_of_le nodes, narrow_of_le names, narrow_of_le regexes,
    narrow_of_le entitlements]
  cases builder.profiles.isEmpty with
  | true => rfl
  | false =>
      cases builder.kind with
      | single => rfl
      | collection =>
          by_cases many : 65535 < builder.profiles.size
          · simp only [narrow, many, Nat.not_le.mpr many, ↓reduceIte]
            rfl
          · simp only [narrow_of_le (Nat.le_of_not_lt many), many]
            rfl

theorem Sound.finish_eq_ok (sound : builder.Sound) {bytes : List UInt8} :
    builder.finish = .ok bytes ↔ builder.profiles.isEmpty = false ∧
      (builder.kind = .collection → builder.profiles.size ≤ 65535) ∧ bytes = builder.layout := by
  rw [sound.finish_eq]
  cases builder.profiles.isEmpty with
  | true => simp
  | false =>
      by_cases many : builder.kind = .collection ∧ 65535 < builder.profiles.size
      · simp [many, Nat.not_le.mpr many.2]
      · rw [if_neg (by decide), if_neg many, Except.ok.injEq, eq_comm]
        rw [not_and, Nat.not_lt] at many
        exact ⟨fun same => ⟨rfl, many, same⟩, fun done => done.2.2⟩

theorem recordCount_eq (sound : builder.Sound) {bytes : List UInt8}
    (finished : builder.finish = .ok bytes) :
    builder.header.recordCount = builder.profiles.toList.length := by
  obtain ⟨filled, few, _⟩ := sound.finish_eq_ok.mp finished
  cases kindEq : builder.kind with
  | single =>
      have some : builder.profiles.toList.length ≠ 0 := by simpa using filled
      have one := sound.single kindEq
      simp only [Header.recordCount, header, kindEq]
      omega
  | collection =>
      have fits := few kindEq
      simp only [Header.recordCount, header, kindEq, UInt16.toNat_ofNat', Array.length_toList]
      omega

/-! The sections that a builder writes. -/

def sections (builder : Builder) : Sections where
  front := builder.header.encode
  regexes := builder.regexTable.places.toList.flatMap wordBytes
  variablePlaces := builder.variableTable.places.toList.flatMap wordBytes
  variableStates := []
  entitlementPlaces := builder.entitlementTable.places.toList.flatMap wordBytes
  instructions := []
  profiles := builder.profiles.toList.flatMap ProfileRecord.encode
  padding := List.replicate (roundUp builder.preamble.length - builder.preamble.length) 0
  nodes := builder.nodeList.flatMap Node.encode
  blocks := []
  data := builder.blobList.flatMap DataArea.encodeBlob

theorem sections_bytes (builder : Builder) : builder.sections.bytes = builder.layout := by
  simp [Sections.bytes, sections, layout, preamble, padded_eq, nodeList, blobList]

theorem preamble_length (sound : builder.Sound) {bytes : List UInt8}
    (finished : builder.finish = .ok bytes) :
    builder.preamble.length = builder.header.plan.recordsEnd := by
  have records : (builder.profiles.toList.flatMap ProfileRecord.encode).length =
      ProfileRecord.length builder.kind builder.operationCount.toNat *
        builder.profiles.toList.length :=
    flatMap_length _ fun record member => (sound.record_fits record member).encode_length
  have header : builder.header.encode.length = 16 := rfl
  have other : builder.header.variableStateCount.toNat = 0 ∧
    builder.header.instructionCount.toNat = 0 := ⟨rfl, rfl⟩
  obtain ⟨_, variableCount, regexCount, entitlementCount⟩ := header_counts sound
  rw [← Header.records_end, ← Header.tables_end, recordCount_eq sound finished, variableCount,
    regexCount, entitlementCount, other.1, other.2, preamble]
  simp only [List.length_append, flatMap_wordBytes_length, records, header, Array.length_toList,
    Array.size_append]
  simp only [Builder.header]
  omega

theorem sections_fits (sound : builder.Sound) {bytes : List UInt8}
    (finished : builder.finish = .ok bytes) : builder.sections.Fits builder.header := by
  obtain ⟨nodeCount, variableCount, regexCount, entitlementCount⟩ := header_counts sound
  constructor
  · rfl
  · rw [sections, flatMap_wordBytes_length, regexCount]
  · rw [sections, flatMap_wordBytes_length, variableCount]
  · rfl
  · rw [sections, flatMap_wordBytes_length, entitlementCount]
  · rfl
  · rw [recordCount_eq sound finished]
    exact flatMap_length _ fun record member => (sound.record_fits record member).encode_length
  · rw [sections, List.length_replicate, preamble_length sound finished]
    rfl
  · rw [nodeCount]
    exact flatMap_length _ fun node _ => node.encode_length
  · rfl

/-- What a sound builder writes is read back as what it holds. -/
theorem ofBytes_finish (sound : builder.Sound) {bytes : List UInt8}
    (finished : builder.finish = .ok bytes) : Image.ofBytes bytes = .ok builder.image := by
  have fits := sections_fits sound finished
  have names := sound.table_texts .variable
  have entitlements := sound.table_texts .entitlement
  rw [(sound.finish_eq_ok.mp finished).2.2]
  rw [← sections_bytes, Sections.ofBytes_bytes fits (Header.decoder_of_encode _), Sections.read]
  have nodes : (Decoder.parts Image.nodeLength builder.header.nodeCount.toNat
      (builder.nodeList.flatMap Node.encode)).filterMap Node.decode? = builder.nodeList := by
    have decoded : Node.decode? ∘ Node.encode = some := funext Node.decode?_encode
    rw [(header_counts sound).1, Decoder.parts_flatMap _ fun node _ => node.encode_length,
      List.filterMap_map, decoded, List.filterMap_some]
  have records := ProfileRecord.readFrom_of_flatMap 0 builder.header.plan.recordsOffset
    builder.profiles.toList sound.record_fits
    fun number record found => by simpa using (sound.records number record found).index_eq
  rw [← recordCount_eq sound finished] at records
  simp only [Builder.table, image] at names entitlements
  simp only [sections, wordsOf_flatMap_wordBytes, names, entitlements, Sections.image, nodes]
  exact congrArg (fun profiles => Except.ok { builder.image with profiles }) records

end Builder

end SandboxPolicy
