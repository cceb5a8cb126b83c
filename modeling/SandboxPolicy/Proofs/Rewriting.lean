import Mathlib
import SandboxPolicy.Proofs.Layout
import SandboxPolicy.Proofs.Reading

/-!
Writing back what was read. A few bytes of a profile are read over: one of the header, two of each
record in a collection, and those that move the nodes up. All others are written as they were.
-/

namespace SandboxPolicy

variable {header : Header} {bytes other : List UInt8} {image : Image}

def Image.encode (image : Image) : List UInt8 :=
  padded (image.header.encode ++
    (image.regexes ++ image.variablePlaces ++ image.variableStates ++ image.entitlementPlaces ++
      image.instructions).flatMap wordBytes ++
    image.profiles.flatMap ProfileRecord.encode) ++
  image.nodes.flatMap Node.encode ++ image.blocks.flatten ++ image.data.bytes

namespace Plan

variable {plan : Plan} {index : Nat}

/-- The byte is the fifth or the sixth of a record in a collection. -/
def Reserved (plan : Plan) (index : Nat) : Prop :=
  plan.isCollection = true ∧ (index % plan.recordLength = 4 ∨ index % plan.recordLength = 5)

instance : DecidablePred plan.Reserved := fun index =>
  inferInstanceAs (Decidable (_ ∧ (index % _ = 4 ∨ index % _ = 5)))

def Unread (plan : Plan) (index : Nat) : Prop :=
  index = 7 ∨
    (plan.recordsOffset ≤ index ∧ index < plan.recordsEnd ∧
      plan.Reserved (index - plan.recordsOffset)) ∨
    (plan.recordsEnd ≤ index ∧ index < plan.nodesOffset)

instance : DecidablePred plan.Unread := fun index =>
  inferInstanceAs (Decidable (index = 7 ∨ (_ ∧ _ ∧ _) ∨ (_ ∧ _)))

theorem Unread.lt (unread : plan.Unread index) : index < plan.dataOffset := by
  obtain ⟨_, _, _, _, _, _, _, _, _⟩ := plan.ordered
  rcases unread with rfl | ⟨_, before, _⟩ | ⟨_, before⟩ <;> omega

theorem read_header (inside : index < 16) (different : index ≠ 7) : ¬plan.Unread index := by
  obtain ⟨_, _, _, _, _, _, _, _, _⟩ := plan.ordered
  rintro (rfl | ⟨after, _, _⟩ | ⟨after, _⟩) <;> omega

theorem read_tables (after : 16 ≤ index) (before : index < plan.recordsOffset) :
    ¬plan.Unread index := by
  obtain ⟨_, _, _, _, _, _, _, _, _⟩ := plan.ordered
  rintro (rfl | ⟨after, _, _⟩ | ⟨after, _⟩) <;> omega

theorem read_nodes (after : plan.nodesOffset ≤ index) : ¬plan.Unread index := by
  obtain ⟨_, _, _, _, _, _, _, _, _⟩ := plan.ordered
  rintro (rfl | ⟨_, before, _⟩ | ⟨_, before⟩) <;> omega

theorem unread_records (inside : plan.recordsOffset + index < plan.recordsEnd) :
    plan.Unread (plan.recordsOffset + index) ↔ plan.Reserved index := by
  obtain ⟨_, _, _, _, _, _, _, _, _⟩ := plan.ordered
  constructor
  · rintro (seven | ⟨_, _, reserved⟩ | ⟨after, _⟩)
    · omega
    · rwa [Nat.add_sub_cancel_left] at reserved
    · omega
  · intro reserved
    exact .inr (.inl ⟨Nat.le_add_right _ _, inside, by rwa [Nat.add_sub_cancel_left]⟩)

end Plan

/-! Bytes that are read over make no difference. -/

structure Resembles (plan : Plan) (other bytes : List UInt8) : Prop where
  length_eq : other.length = bytes.length
  read : ∀ index, ¬plan.Unread index → other[index]? = bytes[index]?

theorem slice_congr {start stop : Nat}
    (same : ∀ index, start ≤ index → index < stop → other[index]? = bytes[index]?) :
    slice other start stop = slice bytes start stop := by
  refine List.ext_getElem? fun index => ?_
  rw [slice_getElem?, slice_getElem?]
  by_cases inside : start + index < stop
  · rw [if_pos inside, if_pos inside, same _ (Nat.le_add_right _ _) inside]
  · rw [if_neg inside, if_neg inside]

namespace ProfileRecord

variable {kind : ProfileKind} {operationCount : Nat}

theorem exists_record (length : bytes.length = ProfileRecord.length .collection operationCount) :
    ∃ a b c d e f rest, bytes = a :: b :: c :: d :: e :: f :: rest ∧
      rest.length = 2 * operationCount := by
  have words : bytes.length = 2 * (operationCount + 2 + 1) := by
    rw [length, ProfileRecord.length]
    omega
  obtain ⟨a, b, _, rfl, named⟩ := exists_word (operationCount + 2) words
  obtain ⟨c, d, _, rfl, masked⟩ := exists_word (operationCount + 1) named
  obtain ⟨e, f, rest, rfl, left⟩ := exists_word operationCount masked
  exact ⟨a, b, c, d, e, f, rest, rfl, left⟩

theorem ofWords_congr {index position : Nat}
    (length : bytes.length = ProfileRecord.length kind operationCount)
    (length' : other.length = ProfileRecord.length kind operationCount)
    (same : ∀ index, ¬(kind = .collection ∧ (index = 4 ∨ index = 5)) →
      other[index]? = bytes[index]?) :
    ofWords kind index position (wordsOf other) = ofWords kind index position (wordsOf bytes) := by
  cases kind with
  | single =>
      have equal : other = bytes := List.ext_getElem? fun index => same index (by simp)
      rw [equal]
  | collection =>
      obtain ⟨a, b, c, d, e, f, rest, rfl, -⟩ := exists_record length
      obtain ⟨a', b', c', d', e', f', rest', rfl, -⟩ := exists_record length'
      obtain rfl : a' = a := by simpa using same 0 (by simp)
      obtain rfl : b' = b := by simpa using same 1 (by simp)
      obtain rfl : c' = c := by simpa using same 2 (by simp)
      obtain rfl : d' = d := by simpa using same 3 (by simp)
      obtain rfl : rest' = rest := by
        refine List.ext_getElem? fun index => ?_
        simpa using same (index + 6) (by omega)
      rfl

theorem readFrom_congr {index position count : Nat}
    (length : bytes.length = ProfileRecord.length kind operationCount * count)
    (length' : other.length = ProfileRecord.length kind operationCount * count)
    (same : ∀ index, ¬(kind = .collection ∧
        (index % ProfileRecord.length kind operationCount = 4 ∨
          index % ProfileRecord.length kind operationCount = 5)) →
      other[index]? = bytes[index]?) :
    readFrom kind operationCount index position count other =
      readFrom kind operationCount index position count bytes := by
  -- Behind a whole record, an index is reserved if it is so by its distance from there.
  induction count generalizing index position bytes other with
  | zero => rfl
  | succ count ih =>
      rw [Nat.mul_succ] at length length'
      rw [readFrom, readFrom]
      refine congrArg₂ List.cons ?_ ?_
      · refine ofWords_congr (List.length_take_of_le (by omega))
          (List.length_take_of_le (by omega)) fun index read => ?_
        rw [List.getElem?_take, List.getElem?_take]
        by_cases inside : index < ProfileRecord.length kind operationCount
        · rw [if_pos inside, if_pos inside, same index (by rwa [Nat.mod_eq_of_lt inside])]
        · rw [if_neg inside, if_neg inside]
      · refine ih (by rw [List.length_drop]; omega) (by rw [List.length_drop]; omega)
          fun index read => ?_
        rw [List.getElem?_drop, List.getElem?_drop]
        exact same _ (by rwa [Nat.add_mod_left])

end ProfileRecord

namespace Resembles

theorem plan_eq (resembles : Resembles (Plan.ofBytes bytes) other bytes) :
    Plan.ofBytes other = Plan.ofBytes bytes :=
  Header.plan_congr fun index inside different =>
    resembles.read index (Plan.read_header inside different)

theorem heads (resembles : Resembles header.plan other bytes) (heads : header.Heads bytes) :
    header.Heads other := by
  have enough := heads.enough
  rw [heads.plan_eq] at resembles
  exact ⟨by rw [resembles.length_eq]; exact enough, by rw [resembles.plan_eq, heads.plan_eq]⟩

theorem table {plan : Plan} (resembles : Resembles plan other bytes) (start : Nat) {stop : Nat}
    (after : 16 ≤ start) (before : stop ≤ plan.recordsOffset) :
    slice other start stop = slice bytes start stop :=
  slice_congr fun index low high =>
    resembles.read index (Plan.read_tables (by omega) (by omega))

theorem behind {plan : Plan} (resembles : Resembles plan other bytes) (start : Nat) {stop : Nat}
    (after : plan.nodesOffset ≤ start) : slice other start stop = slice bytes start stop :=
  slice_congr fun index low _ => resembles.read index (Plan.read_nodes (by omega))

theorem data {plan : Plan} (resembles : Resembles plan other bytes) :
    other.drop plan.dataOffset = bytes.drop plan.dataOffset := by
  obtain ⟨_, _, _, _, _, _, _, _, _⟩ := plan.ordered
  refine List.ext_getElem? fun index => ?_
  rw [List.getElem?_drop, List.getElem?_drop]
  exact resembles.read _ (Plan.read_nodes (by omega))

theorem reserved_iff (index : Nat) : header.plan.Reserved index ↔ header.kind = .collection ∧
    (index % ProfileRecord.length header.kind header.operationCount.toNat = 4 ∨
      index % ProfileRecord.length header.kind header.operationCount.toNat = 5) := by
  rw [Plan.Reserved, header.plan_recordLength]
  refine and_congr_left fun _ => ?_
  rw [Plan.isCollection, Header.plan]
  cases header.kind <;> simp [ProfileKind.flags]

theorem records (resembles : Resembles header.plan other bytes)
    (enough : header.plan.dataOffset ≤ bytes.length) :
    ProfileRecord.readFrom header.kind header.operationCount.toNat 0 header.plan.recordsOffset
        header.recordCount (slice other header.plan.recordsOffset header.plan.recordsEnd) =
      ProfileRecord.readFrom header.kind header.operationCount.toNat 0 header.plan.recordsOffset
        header.recordCount (slice bytes header.plan.recordsOffset header.plan.recordsEnd) := by
  have fits := (Sections.cut_fits enough).profiles
  have fits' := (Sections.cut_fits (resembles.length_eq ▸ enough)).profiles
  refine ProfileRecord.readFrom_congr fits fits' fun index read => ?_
  rw [slice_getElem?, slice_getElem?]
  by_cases inside : header.plan.recordsOffset + index < header.plan.recordsEnd
  · rw [if_pos inside, if_pos inside]
    refine resembles.read _ fun unread => read ?_
    exact (reserved_iff index).mp ((Plan.unread_records inside).mp unread)
  · rw [if_neg inside, if_neg inside]

theorem ofBytes (resembles : Resembles (Plan.ofBytes bytes) other bytes)
    (accepted : Image.ofBytes bytes = .ok image) : Image.ofBytes other = .ok image := by
  obtain ⟨header, heads, enough, read⟩ := Image.ofBytes_eq_ok.mp accepted
  rw [← heads.plan_eq] at resembles
  refine Image.ofBytes_eq_ok.mpr ⟨header, resembles.heads heads,
    resembles.length_eq ▸ enough, ?_⟩
  rw [← read]
  obtain ⟨_, _, _, _, _, _, _, _, _⟩ := header.plan.ordered
  have records := resembles.records enough
  simp only [Sections.read, Sections.image, Sections.cut, records, resembles.data,
    resembles.behind header.plan.nodesOffset (Nat.le_refl _)]
  rw [resembles.table 16 (by omega) (by omega),
    resembles.table header.plan.variablesOffset (by omega) (by omega),
    resembles.table header.plan.statesOffset (by omega) (by omega),
    resembles.table header.plan.entitlementsOffset (by omega) (by omega),
    resembles.table header.plan.instructionsOffset (by omega) (by omega),
    resembles.behind header.plan.blocksOffset (by omega)]

end Resembles

/-! Bytes that are zero wherever they are read over are written as they were. -/

theorem wordBytes_wordAt (bytes : List UInt8) (index : Nat) :
    wordBytes (.ofNat (wordAt bytes index)) =
      [.ofNat (byteAt bytes index), .ofNat (byteAt bytes (index + 1))] := by
  rw [byteAt, byteAt, UInt8.ofNat_toNat, UInt8.ofNat_toNat]
  exact wordBytes_wordOf _ _

theorem slice_eq_map {start stop : Nat} (within : stop ≤ bytes.length) :
    slice bytes start stop =
      (List.range (stop - start)).map fun index => .ofNat (byteAt bytes (start + index)) := by
  refine List.ext_getElem? fun index => ?_
  rw [slice_getElem?, List.getElem?_map]
  by_cases inside : start + index < stop
  · have present : start + index < bytes.length := by omega
    rw [if_pos inside, List.getElem?_range (by omega), Option.map_some, byteAt,
      List.getElem?_eq_getElem present]
    simp
  · rw [if_neg inside, List.getElem?_eq_none (by rw [List.length_range]; omega)]
    rfl

theorem Header.Heads.encode (heads : header.Heads bytes) (blank : bytes[7]? = some 0) :
    header.encode = slice bytes 0 16 := by
  have same : header = (Plan.ofBytes bytes).header header.kind := by
    rw [← heads.plan_eq, header_plan]
  have flags : header.kind.flags = .ofNat (Plan.ofBytes bytes).flags := by
    rw [← heads.plan_eq, plan, UInt16.ofNat_toNat]
  have reserved : byteAt bytes 7 = 0 := by rw [byteAt, blank]; rfl
  generalize header.kind = kind at same flags
  rw [same, Header.encode, Plan.header, flags, slice_eq_map heads.enough]
  simp only [Plan.ofBytes, wordBytes_wordAt]
  simp [List.range_succ, reserved]

namespace ProfileRecord

variable {kind : ProfileKind} {operationCount : Nat}

theorem encode_ofWords (index position : Nat)
    (length : bytes.length = ProfileRecord.length kind operationCount)
    (blank : kind = .collection → bytes[4]? = some 0 ∧ bytes[5]? = some 0) :
    (ofWords kind index position (wordsOf bytes)).encode = bytes := by
  cases kind with
  | single => exact flatMap_wordsOf operationCount bytes length
  | collection =>
      obtain ⟨a, b, c, d, e, f, rest, rfl, left⟩ := exists_record length
      obtain ⟨fifth, sixth⟩ := blank rfl
      obtain rfl : e = 0 := Option.some.inj fifth
      obtain rfl : f = 0 := Option.some.inj sixth
      have zero : wordBytes 0 = [0, 0] := rfl
      simp only [wordsOf, ofWords, encode, preamble, List.cons_append, List.nil_append,
        List.flatMap_cons, wordBytes_wordOf, zero, flatMap_wordsOf operationCount rest left]

theorem encode_readFrom (index position : Nat) {count : Nat}
    (length : bytes.length = ProfileRecord.length kind operationCount * count)
    (blank : kind = .collection → ∀ index < bytes.length,
      index % ProfileRecord.length kind operationCount = 4 ∨
        index % ProfileRecord.length kind operationCount = 5 → bytes[index]? = some 0) :
    (readFrom kind operationCount index position count bytes).flatMap encode = bytes := by
  induction count generalizing index position bytes with
  | zero => simp [readFrom, List.length_eq_zero_iff.mp length]
  | succ count ih =>
      rw [Nat.mul_succ] at length
      have taken : (bytes.take (ProfileRecord.length kind operationCount)).length =
          ProfileRecord.length kind operationCount := List.length_take_of_le (by omega)
      have first := encode_ofWords index position taken fun named => by
          have long : 6 ≤ ProfileRecord.length kind operationCount := by
            rw [named, ProfileRecord.length]
            omega
          rw [List.getElem?_take, if_pos (by omega), List.getElem?_take, if_pos (by omega)]
          exact ⟨blank named 4 (by omega) (.inl (Nat.mod_eq_of_lt (by omega))),
            blank named 5 (by omega) (.inr (Nat.mod_eq_of_lt (by omega)))⟩
      rw [readFrom, List.flatMap_cons, first, ih _ _ (by rw [List.length_drop]; omega),
        List.take_append_drop]
      intro named index inside reserved
      rw [List.length_drop] at inside
      rw [List.getElem?_drop]
      exact blank named _ (by omega) (by rwa [Nat.add_mod_left])

end ProfileRecord

namespace Decoder

variable {size : Nat}

theorem parts_lengths {count : Nat} (enough : size * count ≤ bytes.length) :
    ∀ part ∈ parts size count bytes, part.length = size := by
  induction count generalizing bytes with
  | zero => simp [parts]
  | succ count ih =>
      rw [Nat.mul_succ] at enough
      intro part member
      rcases List.mem_cons.mp member with rfl | later
      · exact List.length_take_of_le (by omega)
      · exact ih (by rw [List.length_drop]; omega) part later

theorem parts_flatten {count : Nat} (length : bytes.length = size * count) :
    (parts size count bytes).flatten = bytes := by
  induction count generalizing bytes with
  | zero => simp [parts, List.length_eq_zero_iff.mp length]
  | succ count ih =>
      rw [Nat.mul_succ] at length
      rw [parts, List.flatten_cons, ih (by rw [List.length_drop]; omega), List.take_append_drop]

end Decoder

theorem Node.encode_of_decode? (length : bytes.length = Image.nodeLength) :
    ∃ node, decode? bytes = some node ∧ node.encode = bytes := by
  match bytes, length with
  | [opcode, filter, b2, b3, b4, b5, b6, b7], _ =>
    refine ⟨_, rfl, ?_⟩
    simp only [encode, wordBytes_wordOf]
    rfl

theorem Node.flatMap_encode (parts : List (List UInt8))
    (lengths : ∀ part ∈ parts, part.length = Image.nodeLength) :
    (parts.filterMap decode?).flatMap encode = parts.flatten := by
  induction parts with
  | nil => rfl
  | cons part rest ih =>
      obtain ⟨node, decoded, encoded⟩ := encode_of_decode? (lengths part List.mem_cons_self)
      rw [List.filterMap_cons_some decoded, List.flatMap_cons, encoded, List.flatten_cons,
        ih fun other member => lengths other (List.mem_cons_of_mem _ member)]

def Sections.preamble (sections : Sections) : List UInt8 :=
  sections.front ++ (sections.regexes ++ sections.variablePlaces ++ sections.variableStates ++
    sections.entitlementPlaces ++ sections.instructions) ++ sections.profiles

theorem Sections.Fits.preamble_length {sections : Sections} (fits : sections.Fits header) :
    sections.preamble.length = header.plan.recordsEnd := by
  rw [← header.records_end, ← header.tables_end, preamble]
  simp only [List.length_append, fits.front, fits.regexes, fits.variablePlaces,
    fits.variableStates, fits.entitlementPlaces, fits.instructions, fits.profiles]
  omega

theorem Sections.Fits.encode_image {sections : Sections} (fits : sections.Fits header)
    (front : header.encode = sections.front)
    (profiles : (ProfileRecord.readFrom header.kind header.operationCount.toNat 0
      header.plan.recordsOffset header.recordCount sections.profiles).flatMap
        ProfileRecord.encode = sections.profiles)
    (padding : ∀ byte ∈ sections.padding, byte = 0) (variableNames entitlements : List String) :
    (sections.image header variableNames entitlements).encode = sections.bytes := by
  have aligned : padded sections.preamble = sections.preamble ++ sections.padding := by
    have zeros := List.eq_replicate_of_mem padding
    rw [padded_eq, fits.preamble_length]
    rw [fits.padding] at zeros
    rw [zeros]
    rfl
  have nodes := Node.flatMap_encode _
    (Decoder.parts_lengths (Nat.le_of_eq fits.nodes.symm))
  rw [Decoder.parts_flatten fits.nodes] at nodes
  rw [preamble] at aligned
  simp only [Image.encode, image, front, List.flatMap_append, flatMap_wordsOf _ _ fits.regexes,
    flatMap_wordsOf _ _ fits.variablePlaces, flatMap_wordsOf _ _ fits.variableStates,
    flatMap_wordsOf _ _ fits.entitlementPlaces, flatMap_wordsOf _ _ fits.instructions, profiles,
    nodes, Decoder.parts_flatten fits.blocks, aligned]
  simp only [Sections.bytes, List.append_assoc]

namespace Image

theorem encode_of_blank (accepted : ofBytes bytes = .ok image)
    (blank : ∀ index, (Plan.ofBytes bytes).Unread index → bytes[index]? = some 0) :
    image.encode = bytes := by
  obtain ⟨header, heads, enough, read⟩ := ofBytes_eq_ok.mp accepted
  obtain ⟨variableNames, entitlements, _, _, rfl⟩ := Sections.read_eq_ok.mp read
  rw [← heads.plan_eq] at blank
  obtain ⟨_, _, _, _, _, _, _, _, _⟩ := header.plan.ordered
  have fits := Sections.cut_fits enough
  have profiles := ProfileRecord.encode_readFrom 0 header.plan.recordsOffset fits.profiles
    fun named index inside reserved => by
      rw [Sections.cut, slice_length (by omega)] at inside
      have within : header.plan.recordsOffset + index < header.plan.recordsEnd := by omega
      rw [Sections.cut, slice_getElem?, if_pos within]
      refine blank _ ((Plan.unread_records within).mpr ?_)
      exact (Resembles.reserved_iff index).mpr ⟨named, reserved⟩
  rw [fits.encode_image (heads.encode (blank 7 (.inl rfl))) profiles, Sections.cut_bytes]
  intro byte member
  obtain ⟨index, found⟩ := List.mem_iff_getElem?.mp member
  rw [Sections.cut, slice_getElem?] at found
  split at found
  case isTrue inside =>
    have zero := blank _ (.inr (.inr ⟨Nat.le_add_right header.plan.recordsEnd index, inside⟩))
    exact Option.some.inj (found.symm.trans zero)
  case isFalse => cases found

/-! What is read over is made zero. -/

def blanked (plan : Plan) (bytes : List UInt8) : List UInt8 :=
  bytes.mapIdx fun index byte => if plan.Unread index then 0 else byte

theorem blanked_resembles (plan : Plan) (bytes : List UInt8) :
    Resembles plan (blanked plan bytes) bytes where
  length_eq := List.length_mapIdx
  read := by
    intro index read
    rw [blanked, List.getElem?_mapIdx]
    simp [read]

theorem blanked_unread {plan : Plan} (enough : plan.dataOffset ≤ bytes.length) {index : Nat}
    (unread : plan.Unread index) : (blanked plan bytes)[index]? = some 0 := by
  have inside := unread.lt
  rw [blanked, List.getElem?_mapIdx, List.getElem?_eq_getElem (by omega)]
  simp [unread]

/-- Writing what was read gives the same bytes, with zeros for those that are not read, and they are
read as the same profile again. -/
theorem encode_ofBytes (accepted : ofBytes bytes = .ok image) :
    image.encode.length = bytes.length ∧
      (∀ index, image.encode[index]? =
        if (Plan.ofBytes bytes).Unread index then some 0 else bytes[index]?) ∧
      ofBytes image.encode = .ok image := by
  have resembles := blanked_resembles (Plan.ofBytes bytes) bytes
  have again := resembles.ofBytes accepted
  have enough : (Plan.ofBytes bytes).dataOffset ≤ bytes.length := by
    obtain ⟨header, heads, enough, _⟩ := ofBytes_eq_ok.mp accepted
    rwa [← heads.plan_eq]
  have written : image.encode = blanked (Plan.ofBytes bytes) bytes := by
    refine encode_of_blank again fun index unread => ?_
    rw [resembles.plan_eq] at unread
    exact blanked_unread enough unread
  rw [written]
  refine ⟨resembles.length_eq, fun index => ?_, again⟩
  by_cases unread : (Plan.ofBytes bytes).Unread index
  · rw [if_pos unread, blanked_unread enough unread]
  · rw [if_neg unread, resembles.read index unread]

/-- A collection of one record: of the bytes 7 in its header, 8 in its record and 6 before its data
zeros are written. -/
theorem encode_ofBytes_collection : ∃ bytes image, ofBytes bytes = .ok image ∧
    bytes[7]? = some 7 ∧ bytes[20]? = some 8 ∧ bytes[26]? = some 6 ∧ bytes[32]? = some 5 ∧
    image.encode.length = 33 ∧ image.encode[7]? = some 0 ∧ image.encode[20]? = some 0 ∧
    image.encode[26]? = some 0 ∧ image.encode[32]? = some 5 ∧
    ofBytes image.encode = .ok image := by
  let bytes : List UInt8 :=
    [0, 0x80, 0, 0, 2, 0, 0, 7, 1, 0, 0, 0, 0, 0, 0, 0, 0, 0, 1, 0, 8, 9, 3, 0, 4, 0, 6, 6, 6, 6, 6,
      6, 5]
  have accepted : (ofBytes bytes).isOk = true := by cbv
  obtain ⟨image, read⟩ := Outcome.exists_of_isOk accepted
  obtain ⟨length, each, again⟩ := encode_ofBytes read
  refine ⟨bytes, image, read, rfl, rfl, rfl, rfl, length, ?_, ?_, ?_, ?_, again⟩
  · rw [each]
    decide
  · rw [each]
    decide
  · rw [each]
    decide
  · rw [each]
    decide

end Image

end SandboxPolicy
