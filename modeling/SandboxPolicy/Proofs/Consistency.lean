import Mathlib
import SandboxPolicy.Proofs.Reading

/-!
Which bytes are a compiled profile: those of a known kind that are as long as their header demands
and have a text at each place that the tables of variables and entitlements name. The complaint
about any others is about the first of these that is missing.
-/

namespace SandboxPolicy

/-! Blobs and texts behind the other sections. -/

def blobEnd (bytes : List UInt8) (start : Nat) : Nat := start + 2 + wordAt bytes start

def textStart (bytes : List UInt8) (place : Nat) : Nat :=
  (Plan.ofBytes bytes).dataOffset + 8 * place

def textEnd (bytes : List UInt8) (place : Nat) : Nat := blobEnd bytes (textStart bytes place)

def textBytes (bytes : List UInt8) (place : Nat) : List UInt8 :=
  slice bytes (textStart bytes place + 2) (textEnd bytes place)

structure IsText (bytes : List UInt8) (place : Nat) : Prop where
  within : textEnd bytes place ≤ bytes.length
  spelled : ∃ text, utf8Bytes text = textBytes bytes place

inductive PlaceFault (bytes : List UInt8) (place : Nat) : BytecodeError → Prop
  | beyond (outside : bytes.length < textEnd bytes place) :
      PlaceFault bytes place
        (.offsetTooLarge (8 * place) (bytes.length - (Plan.ofBytes bytes).dataOffset))
  | unreadable (within : textEnd bytes place ≤ bytes.length)
      (unspelled : ∀ text, utf8Bytes text ≠ textBytes bytes place) :
      PlaceFault bytes place (.invalidText (8 * place))

def textPlaces (bytes : List UInt8) : List Nat :=
  let plan := Plan.ofBytes bytes
  (List.range plan.variableCount).map (fun index =>
      wordAt bytes (plan.variablesOffset + 2 * index)) ++
    (List.range plan.entitlementCount).map fun index =>
      wordAt bytes (plan.entitlementsOffset + 2 * index)

structure Consistent (bytes : List UInt8) : Prop where
  headed : 16 ≤ bytes.length
  known : (Plan.ofBytes bytes).flags = 0 ∨ (Plan.ofBytes bytes).flags = 0x8000
  enough : (Plan.ofBytes bytes).dataOffset ≤ bytes.length
  texts : ∀ place ∈ textPlaces bytes, IsText bytes place

/-- The shape of the bytes is wrong, or it is right and a place is wrong, the first of them all. -/
inductive Complaint (bytes : List UInt8) : BytecodeError → Prop
  | shape {error : BytecodeError} (fault : ShapeFault bytes error) : Complaint bytes error
  | place {before after : List Nat} {place : Nat} {error : BytecodeError}
      (headed : 16 ≤ bytes.length)
      (known : (Plan.ofBytes bytes).flags = 0 ∨ (Plan.ofBytes bytes).flags = 0x8000)
      (enough : (Plan.ofBytes bytes).dataOffset ≤ bytes.length)
      (listed : textPlaces bytes = before ++ place :: after)
      (readable : ∀ earlier ∈ before, IsText bytes earlier)
      (fault : PlaceFault bytes place error) : Complaint bytes error

variable {bytes : List UInt8}

theorem PlaceFault.not_isText {place : Nat} {error : BytecodeError}
    (fault : PlaceFault bytes place error) : ¬IsText bytes place := by
  rintro ⟨within, text, spelled⟩
  cases fault with
  | beyond outside => omega
  | unreadable _ unspelled => exact unspelled text spelled

theorem utf8Text?_eq_none_iff : utf8Text? bytes = none ↔ ∀ text, utf8Bytes text ≠ bytes := by
  constructor
  · rintro none text rfl
    rw [utf8Text?_utf8Bytes] at none
    cases none
  · intro unspelled
    cases read : utf8Text? bytes with
    | none => rfl
    | some text => exact absurd (utf8Bytes_of_utf8Text? read) (unspelled text)

namespace DataArea

variable {offset start : Nat} {place : UInt16}

theorem blob_drop (starts : offset + position place = start) :
    (DataArea.mk (bytes.drop offset)).blob place =
      if blobEnd bytes start ≤ bytes.length then
        .ok (slice bytes (start + 2) (blobEnd bytes start))
      else .error (.offsetTooLarge (position place) (bytes.length - offset)) := by
  have dropped : (bytes.drop offset).drop (position place) = bytes.drop start := by
    rw [List.drop_drop, starts]
  have total : (bytes.drop start).length = bytes.length - start := List.length_drop
  simp only [blob, dropped, List.length_drop]
  -- Without two bytes for the length the blob ends too late in any case.
  rcases found : bytes.drop start with _ | ⟨low, _ | ⟨high, rest⟩⟩
  · rw [found, List.length_nil] at total
    rw [if_neg (by rw [blobEnd]; omega)]
  · rw [found, List.length_singleton] at total
    rw [if_neg (by rw [blobEnd]; omega)]
  · rw [found, List.length_cons, List.length_cons] at total
    have byte (index : Nat) : bytes[start + index]? = (low :: high :: rest)[index]? := by
      rw [← found, List.getElem?_drop]
    have length : (wordOf low high).toNat = wordAt bytes start := by
      have first : byteAt bytes start = low.toNat := congrArg (fun byte => (byte.getD 0).toNat)
        (byte 0)
      have second : byteAt bytes (start + 1) = high.toNat :=
        congrArg (fun byte => (byte.getD 0).toNat) (byte 1)
      rw [wordAt, first, second, wordOf_toNat]
    have blob_eq : slice bytes (start + 2) (blobEnd bytes start) =
        rest.take (wordAt bytes start) := by
      rw [slice, blobEnd, List.drop_take, Nat.add_sub_cancel_left, ← List.drop_drop, found]
      rfl
    simp only [length, List.length_take, blob_eq]
    by_cases within : blobEnd bytes start ≤ bytes.length
    · rw [if_pos within, if_pos (Nat.min_eq_left (by rw [blobEnd] at within; omega))]
    · rw [if_neg within, if_neg (by rw [blobEnd] at within; omega)]

theorem text_drop (bytes : List UInt8) (place : UInt16) :
    (IsText bytes place.toNat ∧ ∃ text,
      (DataArea.mk (bytes.drop (Plan.ofBytes bytes).dataOffset)).text place = .ok text) ∨
    ∃ error, PlaceFault bytes place.toNat error ∧
      (DataArea.mk (bytes.drop (Plan.ofBytes bytes).dataOffset)).text place = .error error := by
  have starts : (Plan.ofBytes bytes).dataOffset + position place =
      textStart bytes place.toNat := rfl
  rw [text, blob_drop starts]
  by_cases within : textEnd bytes place.toNat ≤ bytes.length
  · rw [← textEnd, ← textBytes, if_pos within]
    cases read : utf8Text? (textBytes bytes place.toNat) with
    | some text =>
        refine .inl ⟨⟨within, text, utf8Bytes_of_utf8Text? read⟩, text, ?_⟩
        exact Outcome.bind_eq_ok.mpr ⟨_, rfl, by rw [read]; rfl⟩
    | none =>
        refine .inr ⟨_, .unreadable within (utf8Text?_eq_none_iff.mp read), ?_⟩
        exact Outcome.bind_eq_error.mpr (.inr ⟨_, rfl, by rw [read]; rfl⟩)
  · rw [← textEnd, if_neg within]
    exact .inr ⟨_, .beyond (Nat.lt_of_not_le within), rfl⟩

theorem exists_text : (∃ text,
    (DataArea.mk (bytes.drop (Plan.ofBytes bytes).dataOffset)).text place = .ok text) ↔
      IsText bytes place.toNat := by
  rcases text_drop bytes place with ⟨isText, readable⟩ | ⟨error, fault, failed⟩
  · exact iff_of_true readable isText
  · refine iff_of_false ?_ fault.not_isText
    rintro ⟨text, read⟩
    rw [failed] at read
    cases read

theorem text_fault {error : BytecodeError}
    (failed : (DataArea.mk (bytes.drop (Plan.ofBytes bytes).dataOffset)).text place =
      .error error) : PlaceFault bytes place.toNat error := by
  rcases text_drop bytes place with ⟨_, text, read⟩ | ⟨other, fault, failed'⟩
  · rw [failed] at read
    cases read
  · rwa [← Except.error.inj (failed'.symm.trans failed)]

end DataArea

/-! What the tables name. -/

theorem map_toNat_wordsOf (count : Nat) (bytes : List UInt8) (even : bytes.length = 2 * count) :
    (wordsOf bytes).map UInt16.toNat =
      (List.range count).map fun index => wordAt bytes (2 * index) := by
  induction count generalizing bytes with
  | zero => simp [List.length_eq_zero_iff.mp even, wordsOf]
  | succ count ih =>
      obtain ⟨low, high, rest, rfl, left⟩ := exists_word count even
      have first : (wordOf low high).toNat = wordAt (low :: high :: rest) 0 := wordOf_toNat _ _
      rw [wordsOf, List.map_cons, ih rest left, List.range_succ_eq_map, List.map_cons,
        List.map_map, first]
      rfl

theorem wordAt_slice {start stop index : Nat} (inside : start + index + 1 < stop) :
    wordAt (slice bytes start stop) index = wordAt bytes (start + index) := by
  have byte (index : Nat) (inside : start + index < stop) :
      byteAt (slice bytes start stop) index = byteAt bytes (start + index) := by
    rw [byteAt, slice_getElem?, if_pos inside, byteAt]
  rw [wordAt, byte index (by omega), byte (index + 1) (by omega)]
  rfl

theorem slice_words {start stop : Nat} (count : Nat) (within : stop ≤ bytes.length)
    (counted : start + 2 * count = stop) :
    (wordsOf (slice bytes start stop)).map UInt16.toNat =
      (List.range count).map fun index => wordAt bytes (start + 2 * index) := by
  rw [map_toNat_wordsOf count _ (by rw [slice_length within]; omega)]
  refine List.map_congr_left fun index member => ?_
  have inside := List.mem_range.mp member
  exact wordAt_slice (by omega)

namespace Sections

variable {sections : Sections} {header : Header}

def places (sections : Sections) : List UInt16 :=
  wordsOf sections.variablePlaces ++ wordsOf sections.entitlementPlaces

theorem cut_places (headed : (Plan.ofBytes bytes).dataOffset ≤ bytes.length) :
    (cut (Plan.ofBytes bytes) bytes).places.map UInt16.toNat = textPlaces bytes := by
  have ordered := (Plan.ofBytes bytes).ordered
  obtain ⟨_, _, _, _, _, _, _, _, _⟩ := ordered
  rw [places, List.map_append, cut, slice_words (Plan.ofBytes bytes).variableCount,
    slice_words (Plan.ofBytes bytes).entitlementCount, textPlaces]
  · omega
  · rw [Plan.entitlementsOffset, Plan.instructionsOffset]
    omega
  · omega
  · rw [Plan.variablesOffset, Plan.statesOffset]
    omega

theorem exists_read : (∃ image, sections.read header = .ok image) ↔
    ∀ place ∈ sections.places, ∃ text, (DataArea.mk sections.data).text place = .ok text := by
  constructor
  · rintro ⟨image, read⟩ place member
    obtain ⟨_, _, named, entitled, _⟩ := Sections.read_eq_ok.mp read
    rcases List.mem_append.mp member with variablePlace | entitlementPlace
    · exact Outcome.forall_of_mapM named place variablePlace
    · exact Outcome.forall_of_mapM entitled place entitlementPlace
  · intro readable
    obtain ⟨variableNames, named⟩ := Outcome.exists_mapM fun place member =>
      readable place (List.mem_append_left _ member)
    obtain ⟨entitlements, entitled⟩ := Outcome.exists_mapM fun place member =>
      readable place (List.mem_append_right _ member)
    exact ⟨_, Sections.read_eq_ok.mpr ⟨variableNames, entitlements, named, entitled, rfl⟩⟩

theorem read_eq_error {error : BytecodeError} (failed : sections.read header = .error error) :
    ∃ before place after, sections.places = before ++ place :: after ∧
      (∀ earlier ∈ before, ∃ text, (DataArea.mk sections.data).text earlier = .ok text) ∧
      (DataArea.mk sections.data).text place = .error error := by
  rcases Outcome.bind_eq_error.mp failed with failed | ⟨variableNames, named, failed⟩
  · obtain ⟨before, place, after, listed, readable, failed⟩ :=
      Outcome.exists_of_mapM_error failed
    exact ⟨before, place, _, by rw [places, listed, List.append_assoc, List.cons_append],
      readable, failed⟩
  · rcases Outcome.bind_eq_error.mp failed with failed | ⟨_, _, done⟩
    · obtain ⟨before, place, after, listed, readable, failed⟩ :=
        Outcome.exists_of_mapM_error failed
      refine ⟨wordsOf sections.variablePlaces ++ before, place, after,
        by rw [places, listed, List.append_assoc], ?_, failed⟩
      intro earlier member
      rcases List.mem_append.mp member with variablePlace | later
      · exact Outcome.forall_of_mapM named earlier variablePlace
      · exact readable earlier later
    · cases done

end Sections

namespace Image

variable {header : Header}

theorem ofBytes_consistent : (∃ image, ofBytes bytes = .ok image) ↔ Consistent bytes := by
  have texts (header : Header) (heads : header.Heads bytes)
      (enough : header.plan.dataOffset ≤ bytes.length) :
      (∃ image, (Sections.cut header.plan bytes).read header = .ok image) ↔
        ∀ place ∈ textPlaces bytes, IsText bytes place := by
    rw [heads.plan_eq] at enough ⊢
    rw [Sections.exists_read, ← Sections.cut_places enough, List.forall_mem_map]
    exact forall₂_congr fun place _ => DataArea.exists_text
  constructor
  · rintro ⟨image, accepted⟩
    obtain ⟨header, heads, enough, read⟩ := ofBytes_eq_ok.mp accepted
    exact ⟨heads.enough, heads.flags, heads.plan_eq ▸ enough,
      (texts header heads enough).mp ⟨image, read⟩⟩
  · rintro ⟨headed, known, enough, readable⟩
    obtain ⟨header, heads⟩ := Header.exists_heads headed known
    have enough : header.plan.dataOffset ≤ bytes.length := heads.plan_eq ▸ enough
    obtain ⟨image, read⟩ := (texts header heads enough).mpr readable
    exact ⟨image, ofBytes_eq_ok.mpr ⟨header, heads, enough, read⟩⟩

theorem ofBytes_complains {error : BytecodeError} (refused : ofBytes bytes = .error error) :
    Complaint bytes error := by
  rcases ofBytes_shape bytes with ⟨header, heads, enough⟩ | ⟨other, fault, failed⟩
  · rw [ofBytes_cut heads enough] at refused
    rw [heads.plan_eq] at refused enough
    obtain ⟨before, place, after, listed, readable, failed⟩ := Sections.read_eq_error refused
    have places := Sections.cut_places enough
    rw [listed, List.map_append, List.map_cons] at places
    refine .place heads.enough heads.flags enough places.symm ?_ (DataArea.text_fault failed)
    rw [List.forall_mem_map]
    exact fun earlier member => DataArea.exists_text.mp (readable earlier member)
  · rw [← Except.error.inj (failed.symm.trans refused)]
    exact .shape fault

end Image

/-! Bytes that are cut short. -/

section Take

variable {count : Nat}

theorem wordAt_take {index : Nat} (inside : index + 1 < count) :
    wordAt (bytes.take count) index = wordAt bytes index := by
  have whole : wordAt (slice bytes 0 count) index = wordAt bytes (0 + index) :=
    wordAt_slice (by omega)
  rwa [Nat.zero_add, slice, List.drop_zero] at whole

theorem plan_take (headed : 16 ≤ count) : Plan.ofBytes (bytes.take count) = Plan.ofBytes bytes := by
  refine Header.plan_congr fun index inside _ => ?_
  rw [List.getElem?_take, if_pos (by omega)]

theorem textPlaces_take (enough : (Plan.ofBytes bytes).dataOffset ≤ count) :
    textPlaces (bytes.take count) = textPlaces bytes := by
  have headed := (Plan.ofBytes bytes).header_le
  obtain ⟨_, _, _, _, _, _, _, _, _⟩ := (Plan.ofBytes bytes).ordered
  rw [textPlaces, textPlaces, plan_take (by omega)]
  refine congrArg₂ _ ?_ ?_
  · refine List.map_congr_left fun index member => wordAt_take ?_
    have inside := List.mem_range.mp member
    have ends : (Plan.ofBytes bytes).statesOffset =
        (Plan.ofBytes bytes).variablesOffset + 2 * (Plan.ofBytes bytes).variableCount := by
      rw [Plan.statesOffset, Plan.variablesOffset]
      omega
    omega
  · refine List.map_congr_left fun index member => wordAt_take ?_
    have inside := List.mem_range.mp member
    have ends : (Plan.ofBytes bytes).instructionsOffset =
        (Plan.ofBytes bytes).entitlementsOffset + 2 * (Plan.ofBytes bytes).entitlementCount := by
      rw [Plan.instructionsOffset, Plan.entitlementsOffset]
      omega
    omega

theorem isText_take {place : Nat} (headed : 16 ≤ count) (isText : IsText bytes place) :
    IsText (bytes.take count) place ↔ textEnd bytes place ≤ count := by
  have starts : textStart (bytes.take count) place = textStart bytes place := by
    rw [textStart, plan_take headed, textStart]
  have ends (inside : textStart bytes place + 1 < count) :
      textEnd (bytes.take count) place = textEnd bytes place := by
    rw [textEnd, starts, blobEnd, wordAt_take inside, textEnd, blobEnd]
  have after (bytes : List UInt8) : textStart bytes place + 2 ≤ textEnd bytes place :=
    Nat.le_add_right _ _
  constructor
  · -- A text before the cut has its length there too, so it is as long as it was.
    rintro ⟨within, _⟩
    have bound := List.length_take_le count bytes
    have begins := after (bytes.take count)
    rw [starts] at begins
    rw [ends (by omega)] at within
    omega
  · intro within
    have begins := after bytes
    have ends := ends (by omega)
    refine ⟨?_, ?_⟩
    · rw [ends, List.length_take]
      exact Nat.le_min.mpr ⟨within, isText.within⟩
    · obtain ⟨text, spelled⟩ := isText.spelled
      refine ⟨text, ?_⟩
      rw [spelled, textBytes, textBytes, starts, ends, slice, slice, List.take_take,
        Nat.min_eq_left within]

theorem Consistent.take_iff (consistent : Consistent bytes) :
    Consistent (bytes.take count) ↔
      (Plan.ofBytes bytes).dataOffset ≤ count ∧
        ∀ place ∈ textPlaces bytes, textEnd bytes place ≤ count := by
  have bound := List.length_take_le count bytes
  have header := (Plan.ofBytes bytes).header_le
  constructor
  · rintro ⟨headed, _, enough, texts⟩
    rw [plan_take (by omega)] at enough
    rw [textPlaces_take (by omega)] at texts
    refine ⟨by omega, fun place member => ?_⟩
    exact (isText_take (by omega) (consistent.texts place member)).mp (texts place member)
  · rintro ⟨enough, ends⟩
    have length : (bytes.take count).length = min count bytes.length := List.length_take
    have whole := consistent.enough
    constructor
    · omega
    · rw [plan_take (by omega)]
      exact consistent.known
    · rw [plan_take (by omega)]
      omega
    · rw [textPlaces_take enough]
      intro place member
      exact (isText_take (by omega) (consistent.texts place member)).mpr (ends place member)

end Take

/-- Reading accepts the consistent bytes and complains about all others. Accepted bytes may be cut
short behind the last text, and nowhere else. -/
theorem Image.ofBytes_exact (bytes : List UInt8) :
    ((∃ image, ofBytes bytes = .ok image) ↔ Consistent bytes) ∧
      (∀ error, ofBytes bytes = .error error → Complaint bytes error) ∧
      ∀ image, ofBytes bytes = .ok image → ∀ count,
        (∃ error, ofBytes (bytes.take count) = .error error) ↔
          count < (Plan.ofBytes bytes).dataOffset ∨
            ∃ place ∈ textPlaces bytes, count < textEnd bytes place := by
  refine ⟨ofBytes_consistent, fun error => ofBytes_complains, ?_⟩
  intro image accepted count
  have consistent := ofBytes_consistent.mp ⟨image, accepted⟩
  have refused : (∃ error, ofBytes (bytes.take count) = .error error) ↔
      ¬Consistent (bytes.take count) := by
    rw [← ofBytes_consistent]
    cases ofBytes (bytes.take count) <;> simp
  rw [refused, consistent.take_iff, not_and_or, Nat.not_le]
  simp only [not_forall, Nat.not_le, exists_prop]

/-- A profile with one variable, whose name ends three bytes behind the start of the data. -/
theorem Image.ofBytes_exact_variable :
    ∃ bytes image, ofBytes bytes = .ok image ∧ (∃ error, ofBytes (bytes.take 26) = .error error) ∧
      ¬∃ error, ofBytes (bytes.take 27) = .error error := by
  let bytes : List UInt8 :=
    [0, 0, 0, 0, 0, 1, 0, 0, 0, 0, 0, 0, 0, 0, 0, 0, 0, 0, 0, 0, 0, 0, 0, 0, 1, 0, 0x41, 9]
  have exact := ofBytes_exact bytes
  have accepted : (ofBytes bytes).isOk = true := by cbv
  obtain ⟨image, read⟩ := Outcome.exists_of_isOk accepted
  refine ⟨bytes, image, read, (exact.2.2 image read 26).mpr ?_, ?_⟩
  · exact .inr ⟨0, by decide, by decide⟩
  · rw [exact.2.2 image read 27]
    decide

end SandboxPolicy
