import SandboxPolicy.Proofs.Decoding

/-!
Steps of a reader, one after the other and whatever becomes of them. The reader never leaves its
bytes: a step that succeeds takes what lies between the places before and after it, and one that
fails stops behind the last part that is wholly there.
-/

namespace SandboxPolicy

open Steps

namespace Decoder

variable {α : Type} {position size : Nat}

theorem FailsInPlace.short {decoder : Decoder α} {rest : List UInt8}
    (inPlace : decoder.FailsInPlace position size) (few : rest.length < size * 1) :
    ∃ complete < 1, size * complete ≤ rest.length ∧ rest.length < size * complete + size ∧
      decoder (.reading position rest) =
        .error (.tooSmall size (position + size * complete) (position + rest.length))
          (.reading (position + size * complete) (rest.drop (size * complete))) := by
  rw [Nat.mul_one] at few
  exact ⟨0, Nat.one_pos, Nat.zero_le _, by simpa using few, inPlace rest few⟩

/-- A sequence stops in front of the first part that is not wholly there. -/
theorem times_short {decoder : Decoder α} {value : Nat → List UInt8 → α} {count : Nat}
    {rest : List UInt8} (reads : ∀ position, decoder.Reads position size (value position))
    (inPlace : ∀ position, decoder.FailsInPlace position size)
    (few : rest.length < size * count) :
    ∃ complete < count, size * complete ≤ rest.length ∧ rest.length < size * complete + size ∧
      times decoder count (.reading position rest) =
        .error (.tooSmall size (position + size * complete) (position + rest.length))
          (.reading (position + size * complete) (rest.drop (size * complete))) := by
  induction count generalizing position rest with
  | zero => exact absurd few (Nat.not_lt_zero _)
  | succ count ih =>
      have unfolded : times decoder (count + 1) =
          (decoder >>= fun first => times decoder count >>= fun rest => pure (first :: rest)) := rfl
      by_cases enough : size ≤ rest.length
      · have left : (rest.drop size).length = rest.length - size := List.length_drop
        rw [Nat.mul_succ] at few
        obtain ⟨complete, below, within, beyond, failed⟩ :=
          @ih (position + size) (rest.drop size) (by omega)
        refine ⟨complete + 1, Nat.succ_lt_succ below, ?_, ?_, ?_⟩
        · rw [Nat.mul_succ]
          omega
        · rw [Nat.mul_succ]
          omega
        · have place : position + size + size * complete = position + size * (complete + 1) := by
            rw [Nat.mul_succ]
            omega
          have total : position + size + (rest.drop size).length = position + rest.length := by
            omega
          have behind : (rest.drop size).drop (size * complete) =
              rest.drop (size * (complete + 1)) := by
            rw [List.drop_drop, Nat.mul_succ, Nat.add_comm]
          rw [place, total, behind] at failed
          rw [unfolded, bind_of_ok ((reads position).whole rest enough), bind_apply, failed]
      · have missing := Nat.lt_of_not_le enough
        refine ⟨0, Nat.succ_pos count, Nat.zero_le _, by simpa using missing, ?_⟩
        rw [unfolded, bind_apply, inPlace position rest missing]
        rfl

end Decoder

structure AreRecords (count length position : Nat) (bytes : List UInt8)
    (records : List (Nat × List UInt8)) : Prop where
  bytes : bytes = records.flatMap Prod.snd
  count : records.length = count
  places : ∀ index place part, records[index]? = some (place, part) →
    place = position + length * index ∧ part.length = length

theorem areRecords_partValues {count length position : Nat} {bytes : List UInt8}
    (enough : bytes.length = length * count) :
    AreRecords count length position bytes
      (Decoder.partValues length Prod.mk position count bytes) := by
  induction count generalizing position bytes with
  | zero =>
      obtain rfl : bytes = [] := List.length_eq_zero_iff.mp enough
      exact ⟨rfl, rfl, by simp [Decoder.partValues]⟩
  | succ count ih =>
      rw [Nat.mul_succ] at enough
      have others := @ih (position + length) (bytes.drop length) (by rw [List.length_drop]; omega)
      refine ⟨?_, ?_, ?_⟩
      · rw [Decoder.partValues, List.flatMap_cons, ← others.bytes, List.take_append_drop]
      · rw [Decoder.partValues, List.length_cons, others.count]
      · rintro (_ | index) place part found
        · obtain ⟨rfl, rfl⟩ := Prod.mk.inj (Option.some.inj found)
          exact ⟨rfl, List.length_take_of_le (by omega)⟩
        · obtain ⟨rfl, whole⟩ := others.places index place part found
          refine ⟨?_, whole⟩
          rw [Nat.mul_succ]
          omega

structure ByteReader.Describes (reader : ByteReader) (bytes : List UInt8) : Prop where
  within : reader.position ≤ bytes.length
  rest : reader.rest = bytes.drop reader.position
  remaining : reader.remaining = reader.rest.length

theorem ByteReader.Describes.reading {position : Nat} (bytes : List UInt8)
    (within : position ≤ bytes.length) :
    (ByteReader.reading position (bytes.drop position)).Describes bytes :=
  ⟨within, rfl, by simp [ByteReader.remaining, ByteReader.reading]⟩

inductive ReadStep where
  | byte
  | word
  | take (count : Nat)
  | align (unit : Nat) (positive : 0 < unit)
  | words (count : Nat)
  | records (count length : Nat)

namespace ReadStep

def Result : ReadStep → Type
  | .byte => UInt8
  | .word => UInt16
  | .take _ => List UInt8
  | .align _ _ => Unit
  | .words _ => List UInt16
  | .records _ _ => List (Nat × List UInt8)

def decoder : (step : ReadStep) → Decoder step.Result
  | .byte => Decoder.byte
  | .word => Decoder.word
  | .take count => Decoder.take count
  | .align unit _ => Decoder.align unit
  | .words count => Decoder.words count
  | .records count length => Decoder.records count length

def count : ReadStep → Nat
  | .words count | .records count _ => count
  | .byte | .word | .take _ | .align _ _ => 1

def size : ReadStep → (position : Nat) → Nat
  | .byte, _ => 1
  | .word, _ => 2
  | .take count, _ => count
  | .align unit _, position => Decoder.gapTo unit position
  | .words _, _ => 2
  | .records _ length, _ => length

def Decodes : (step : ReadStep) → (position : Nat) → (bytes : List UInt8) → step.Result → Prop
  | .byte, _, bytes, value => bytes = [value]
  | .word, _, bytes, value => bytes = wordBytes value
  | .take count, _, bytes, value => value = bytes ∧ bytes.length = count
  | .align unit _, position, bytes, _ => unit ∣ position + bytes.length ∧ bytes.length < unit
  | .words count, _, bytes, values => bytes = values.flatMap wordBytes ∧ values.length = count
  | .records count length, position, bytes, values =>
      AreRecords count length position bytes values

/-- The reader behind the step, whether it succeeds or fails. -/
def after (step : ReadStep) (reader : ByteReader) : ByteReader :=
  match step.decoder reader with
  | .ok _ after => after
  | .error _ after => after

def reached (bytes : List UInt8) (steps : List ReadStep) : ByteReader :=
  steps.foldl (fun reader step => step.after reader) (.ofBytes bytes)

variable {position : Nat} {rest : List UInt8}

theorem exists_reads (step : ReadStep) (position : Nat) :
    ∃ value, step.decoder.Reads position (step.size position * step.count) value ∧
      ∀ bytes, bytes.length = step.size position * step.count →
        step.Decodes position bytes (value bytes) := by
  cases step with
  | byte =>
      refine ⟨_, Decoder.reads_byte, fun bytes length => ?_⟩
      obtain ⟨value, rfl⟩ := List.length_eq_one_iff.mp length
      rfl
  | word =>
      refine ⟨_, Decoder.reads_word, fun bytes length => ?_⟩
      obtain ⟨low, high, rest, rfl, left⟩ := exists_word 0 length
      obtain rfl := List.length_eq_zero_iff.mp left
      exact (wordBytes_wordOf low high).symm
  | take count =>
      rw [size, ReadStep.count, Nat.mul_one]
      exact ⟨_, Decoder.reads_take position count, fun bytes length => ⟨rfl, length⟩⟩
  | align unit positive =>
      rw [size, ReadStep.count, Nat.mul_one]
      refine ⟨_, Decoder.reads_alignTo positive position, fun bytes length => ?_⟩
      exact ⟨length ▸ Decoder.dvd_gapTo positive position, length ▸ Nat.mod_lt _ positive⟩
  | words count =>
      refine ⟨_, Decoder.reads_words count, fun bytes length => ?_⟩
      exact ⟨(flatMap_wordsOf count bytes length).symm, wordsOf_length count bytes length⟩
  | records count length =>
      exact ⟨_, Decoder.reads_records position count length,
        fun bytes enough => areRecords_partValues enough⟩

theorem run_short (step : ReadStep) (few : rest.length < step.size position * step.count) :
    ∃ complete < step.count, step.size position * complete ≤ rest.length ∧
      rest.length < step.size position * complete + step.size position ∧
      step.decoder (.reading position rest) =
        .error (.tooSmall (step.size position) (position + step.size position * complete)
            (position + rest.length))
          (.reading (position + step.size position * complete)
            (rest.drop (step.size position * complete))) := by
  cases step with
  | byte => exact (Decoder.failsInPlace_byte position).short few
  | word => exact (Decoder.failsInPlace_word position).short few
  | take count => exact (Decoder.failsInPlace_take position count).short few
  | align unit positive => exact (Decoder.failsInPlace_align positive position).short few
  | words count =>
      exact Decoder.times_short (fun _ => Decoder.reads_word) Decoder.failsInPlace_word few
  | records count length =>
      exact Decoder.times_short (fun position => Decoder.reads_record position length)
        (fun position => Decoder.failsInPlace_record position length) few

structure FailsAt (step : ReadStep) (bytes : List UInt8) (reader after : ByteReader)
    (error : BytecodeError) : Prop where
  place : ∃ complete < step.count,
    after.position = reader.position + step.size reader.position * complete
  error : error = .tooSmall (step.size reader.position) after.position bytes.length
  missing : bytes.length < after.position + step.size reader.position
  unmoved : step.count = 1 → after = reader

structure Exact (step : ReadStep) (bytes : List UInt8) (reader : ByteReader) : Prop where
  forward : reader.position ≤ (step.after reader).position
  succeeds : (∃ value after, step.decoder reader = .ok value after) ↔
    reader.position + step.size reader.position * step.count ≤ bytes.length
  decodes : ∀ value after, step.decoder reader = .ok value after →
    after.position = reader.position + step.size reader.position * step.count ∧
      step.Decodes reader.position
        ((bytes.drop reader.position).take (after.position - reader.position)) value
  fails : ∀ error after, step.decoder reader = .error error after →
    step.FailsAt bytes reader after error

theorem after_reading (step : ReadStep) (position : Nat) (rest : List UInt8) :
    ∃ moved ≤ rest.length,
      step.after (.reading position rest) = .reading (position + moved) (rest.drop moved) := by
  by_cases enough : step.size position * step.count ≤ rest.length
  · obtain ⟨value, reads, _⟩ := step.exists_reads position
    refine ⟨_, enough, ?_⟩
    rw [after, reads.whole rest enough]
  · obtain ⟨complete, _, within, _, failed⟩ := step.run_short (Nat.lt_of_not_le enough)
    exact ⟨_, within, by rw [after, failed]⟩

theorem foldl_after_reading (steps : List ReadStep) (bytes : List UInt8)
    (within : position ≤ bytes.length) : ∃ place, position ≤ place ∧ place ≤ bytes.length ∧
      steps.foldl (fun reader step => step.after reader)
          (.reading position (bytes.drop position)) = .reading place (bytes.drop place) := by
  induction steps generalizing position with
  | nil => exact ⟨position, Nat.le_refl _, within, rfl⟩
  | cons step steps ih =>
      obtain ⟨moved, inside, reached⟩ := step.after_reading position (bytes.drop position)
      rw [List.length_drop] at inside
      obtain ⟨place, later, within, ends⟩ := @ih (position + moved) (by omega)
      refine ⟨place, by omega, within, ?_⟩
      rw [List.foldl_cons, reached, List.drop_drop, ends]

theorem exact_reading (step : ReadStep) (bytes : List UInt8) (within : position ≤ bytes.length) :
    step.Exact bytes (.reading position (bytes.drop position)) := by
  have left : (bytes.drop position).length = bytes.length - position := List.length_drop
  obtain ⟨moved, _, reached⟩ := step.after_reading position (bytes.drop position)
  have forward : position ≤ (step.after (.reading position (bytes.drop position))).position := by
    rw [reached]
    exact Nat.le_add_right position moved
  by_cases enough : step.size position * step.count ≤ (bytes.drop position).length
  · obtain ⟨value, reads, decodes⟩ := step.exists_reads position
    have done := reads.whole _ enough
    have fits : position + step.size position * step.count ≤ bytes.length := by omega
    refine ⟨forward, ⟨fun _ => fits, fun _ => ⟨_, _, done⟩⟩, fun found after succeeded => ?_,
      fun error after failed => ?_⟩
    · rw [done] at succeeded
      cases succeeded
      refine ⟨rfl, ?_⟩
      rw [ByteReader.reading_position, ByteReader.reading_position, Nat.add_sub_cancel_left]
      exact decodes _ (List.length_take_of_le enough)
    · rw [done] at failed
      cases failed
  · have few := Nat.lt_of_not_le enough
    obtain ⟨complete, below, inside, beyond, stopped⟩ := step.run_short few
    have total : position + (bytes.drop position).length = bytes.length := by omega
    have short : ¬position + step.size position * step.count ≤ bytes.length := by omega
    refine ⟨forward, ⟨?_, fun fits => absurd fits short⟩, fun found after succeeded => ?_,
      fun error after failed => ?_⟩
    · rintro ⟨found, after, succeeded⟩
      rw [stopped] at succeeded
      cases succeeded
    · rw [stopped] at succeeded
      cases succeeded
    · rw [stopped, total] at failed
      cases failed
      refine ⟨⟨complete, below, rfl⟩, rfl, ?_, fun single => ?_⟩
      · rw [ByteReader.reading_position, ByteReader.reading_position]
        omega
      · obtain rfl : complete = 0 := by omega
        rfl

/-- Behind any steps the reader is at a place in its bytes, not before those it was at, and the next
step either takes the bytes that it decodes or fails behind the last part that is wholly there. -/
theorem reached_exact (bytes : List UInt8) (steps more : List ReadStep) (step : ReadStep) :
    (reached bytes steps).Describes bytes ∧
    (reached bytes steps).position ≤ (reached bytes (steps ++ more)).position ∧
    step.Exact bytes (reached bytes steps) := by
  obtain ⟨position, _, within, ends⟩ := foldl_after_reading steps bytes (Nat.zero_le _)
  obtain ⟨place, later, _, ends'⟩ := foldl_after_reading more bytes within
  rw [List.drop_zero, ← ByteReader.ofBytes_eq] at ends
  rw [reached, reached, List.foldl_append, ends, ends']
  exact ⟨.reading bytes within, later, exact_reading step bytes within⟩

/-- After a failure the reader goes on where it stopped. -/
example : (reached [1, 0, 2] [.words 2, .take (2 ^ 64 - 1), .byte]).position = 3 := by decide

end ReadStep

end SandboxPolicy
