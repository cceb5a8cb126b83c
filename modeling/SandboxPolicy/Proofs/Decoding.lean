import SandboxPolicy.Bytecode.Image
import SandboxPolicy.Proofs.Steps

/-!
How many bytes each decoder takes, and what it makes of them. A decoder that does not find as many
as it wants complains that there are too few.
-/

namespace SandboxPolicy

open Steps

def ByteReader.reading (position : Nat) (rest : List UInt8) : ByteReader :=
  ⟨position, rest, position + rest.length⟩

theorem ByteReader.ofBytes_eq (bytes : List UInt8) : ofBytes bytes = .reading 0 bytes := by
  rw [ofBytes, reading, Nat.zero_add]

@[simp] theorem ByteReader.reading_position (position : Nat) (rest : List UInt8) :
    (reading position rest).position = position := rfl

@[simp] theorem ByteReader.reading_rest (position : Nat) (rest : List UInt8) :
    (reading position rest).rest = rest := rfl

namespace Decoder

variable {α β : Type} {position size : Nat}

/-- The decoder complains that it needs more bytes than there are, but not more than `size`. -/
def Starved (decoder : Decoder α) (position size : Nat) (rest : List UInt8) : Prop :=
  ∃ needed reached after,
    decoder (.reading position rest) =
        .error (.tooSmall needed reached (position + rest.length)) after ∧
      position + rest.length < reached + needed ∧ reached + needed ≤ position + size

def Starves (decoder : Decoder α) (position size : Nat) : Prop :=
  ∀ rest, rest.length < size → decoder.Starved position size rest

def FailsInPlace (decoder : Decoder α) (position size : Nat) : Prop :=
  ∀ rest, rest.length < size → decoder (.reading position rest) =
    .error (.tooSmall size position (position + rest.length)) (.reading position rest)

/-- From the position on the decoder takes `size` bytes and makes the value of them. -/
structure Reads (decoder : Decoder α) (position size : Nat) (value : List UInt8 → α) : Prop where
  whole : ∀ rest, size ≤ rest.length →
    decoder (.reading position rest) =
      .ok (value (rest.take size)) (.reading (position + size) (rest.drop size))
  short : decoder.Starves position size

theorem Reads.of_append {decoder : Decoder α} {value : List UInt8 → α}
    (reads : decoder.Reads position size value) {bytes : List UInt8} (enough : bytes.length = size)
    (rest : List UInt8) :
    decoder (.reading position (bytes ++ rest)) =
      .ok (value bytes) (.reading (position + size) rest) := by
  subst enough
  rw [reads.whole _ (by simp), List.take_left, List.drop_left]

theorem Reads.congr {decoder : Decoder α} {value other : List UInt8 → α}
    (reads : decoder.Reads position size value)
    (same : ∀ bytes, bytes.length = size → value bytes = other bytes) :
    decoder.Reads position size other where
  whole := by
    intro rest enough
    rw [reads.whole rest enough, same _ (List.length_take_of_le enough)]
  short := reads.short

theorem FailsInPlace.starves {decoder : Decoder α} (inPlace : decoder.FailsInPlace position size) :
    decoder.Starves position size :=
  fun rest few => ⟨size, position, _, inPlace rest few, Nat.add_lt_add_left few position,
    Nat.le_refl _⟩

theorem starves_zero (decoder : Decoder α) (position : Nat) : decoder.Starves position 0 :=
  fun _ few => absurd few (Nat.not_lt_zero _)

theorem Reads.pure (position : Nat) (value : α) :
    (pure value : Decoder α).Reads position 0 fun _ => value where
  whole := by simp
  short := starves_zero _ _

theorem Starved.bind {first : Decoder α} {rest : List UInt8} {total : Nat}
    (starved : first.Starved position size rest) (within : size ≤ total)
    (next : α → Decoder β) : (first >>= next).Starved position total rest := by
  obtain ⟨needed, reached, after, failed, missing, wanted⟩ := starved
  exact ⟨needed, reached, after, by rw [bind_apply, failed], missing, by omega⟩

theorem Starves.after {first : Decoder α} {next : α → Decoder β} {taken left : Nat} {value : α}
    {rest : List UInt8} (continues : (next value).Starves (position + taken) left)
    (done : first (.reading position rest) =
      .ok value (.reading (position + taken) (rest.drop taken)))
    (enough : taken ≤ rest.length) (few : rest.length < taken + left) :
    (first >>= next).Starved position (taken + left) rest := by
  have total : position + taken + (rest.drop taken).length = position + rest.length := by
    rw [List.length_drop]
    omega
  obtain ⟨needed, reached, after, failed, missing, wanted⟩ :=
    continues (rest.drop taken) (by omega)
  rw [total] at failed missing
  exact ⟨needed, reached, after, by rw [bind_of_ok done, failed], missing, by omega⟩

theorem Reads.starves_bind {first : Decoder α} {next : α → Decoder β} {taken left : Nat}
    {value : List UInt8 → α} (begins : first.Reads position taken value)
    (continues : ∀ found, (next found).Starves (position + taken) left) :
    (first >>= next).Starves position (taken + left) := by
  intro rest few
  by_cases enough : taken ≤ rest.length
  · exact (continues _).after (begins.whole rest enough) enough few
  · exact (begins.short rest (by omega)).bind (Nat.le_add_right _ _) next

theorem Reads.bind {first : Decoder α} {next : α → Decoder β} {taken left : Nat}
    {value : List UInt8 → α} {result : α → List UInt8 → β}
    (begins : first.Reads position taken value)
    (continues : ∀ found, (next found).Reads (position + taken) left (result found)) :
    (first >>= next).Reads position (taken + left) fun bytes =>
      result (value (bytes.take taken)) (bytes.drop taken) where
  whole := by
    intro rest enough
    rw [bind_of_ok (begins.whole rest (by omega)),
      (continues _).whole _ (by rw [List.length_drop]; omega), List.take_take, List.drop_take,
      List.drop_drop, Nat.min_eq_left (by omega), Nat.add_sub_cancel_left, Nat.add_assoc]
  short := begins.starves_bind fun found => (continues found).short

theorem position_apply (rest : List UInt8) :
    Decoder.position (.reading position rest) = .ok position (.reading position rest) := rfl

theorem reads_position (position : Nat) : Decoder.position.Reads position 0 fun _ => position where
  whole := by simp [Decoder.position, bind_apply, ByteReader.reading]
  short := starves_zero _ _

theorem failsInPlace_take (position count : Nat) : (take count).FailsInPlace position count := by
  intro rest few
  have short : ¬position + count ≤ position + rest.length := by omega
  simp [take, ByteReader.reading, short]

theorem reads_take (position count : Nat) : (take count).Reads position count id where
  whole := by
    intro rest enough
    have fits : position + count ≤ position + rest.length := by omega
    have left : position + count + (rest.length - count) = position + rest.length := by omega
    simp [take, ByteReader.reading, fits, left]
  short := (failsInPlace_take position count).starves

theorem failsInPlace_word (position : Nat) : Decoder.word.FailsInPlace position 2 := by
  intro rest few
  match rest, few with
  | [], _ | [_], _ => rfl

theorem reads_word :
    Decoder.word.Reads position 2 fun bytes => wordOf (bytes[0]?.getD 0) (bytes[1]?.getD 0) where
  whole := by
    intro rest enough
    match rest, enough with
    | low :: high :: rest, _ => simp [word, ByteReader.reading, Nat.add_assoc, Nat.add_comm 2]
  short := (failsInPlace_word position).starves

theorem failsInPlace_byte (position : Nat) : Decoder.byte.FailsInPlace position 1 := by
  intro rest few
  match rest, few with
  | [], _ => rfl

theorem reads_byte : Decoder.byte.Reads position 1 fun bytes => bytes[0]?.getD 0 where
  whole := by
    intro rest enough
    match rest, enough with
    | value :: rest, _ => simp [byte, ByteReader.reading, Nat.add_assoc, Nat.add_comm 1]
  short := (failsInPlace_byte position).starves

def partValues (size : Nat) (value : Nat → List UInt8 → α) :
    (position count : Nat) → List UInt8 → List α
  | _, 0, _ => []
  | position, count + 1, bytes =>
      value position (bytes.take size) ::
        partValues size value (position + size) count (bytes.drop size)

theorem reads_times {decoder : Decoder α} {value : Nat → List UInt8 → α}
    (reads : ∀ position, decoder.Reads position size (value position)) (count : Nat) :
    (times decoder count).Reads position (size * count) (partValues size value position count) := by
  induction count generalizing position with
  | zero => exact .pure position []
  | succ count ih =>
      have unfolded : times decoder (count + 1) =
          (decoder >>= fun first => times decoder count >>= fun rest => pure (first :: rest)) := rfl
      have step := (reads position).bind fun first =>
        (@ih (position + size)).bind fun rest => Reads.pure _ (first :: rest)
      rw [unfolded, Nat.mul_succ, Nat.add_comm (size * count)]
      refine step.congr fun bytes length => ?_
      have left : (bytes.drop size).length = size * count := by
        rw [List.length_drop, length]
        omega
      rw [partValues, List.take_of_length_le (Nat.le_of_eq left)]

theorem partValues_words (count : Nat) (bytes : List UInt8) (length : bytes.length = 2 * count) :
    partValues 2 (fun _ part => wordOf (part[0]?.getD 0) (part[1]?.getD 0)) position count bytes =
      wordsOf bytes := by
  induction count generalizing position bytes with
  | zero =>
      have empty : bytes = [] := List.length_eq_zero_iff.mp length
      rw [empty, partValues, wordsOf]
      simp
  | succ count ih =>
      rcases bytes with _ | ⟨low, _ | ⟨high, rest⟩⟩
      · simp at length
      · simp only [List.length_cons, List.length_nil] at length
        omega
      · have left : rest.length = 2 * count := by
          simp only [List.length_cons] at length
          omega
        simp only [partValues, wordsOf, List.take_succ_cons, List.take_zero, List.drop_succ_cons,
          List.drop_zero]
        rw [ih rest left]
        simp

theorem reads_words (count : Nat) : (words count).Reads position (2 * count) wordsOf :=
  (reads_times (fun _ => reads_word) count).congr fun bytes length =>
    partValues_words count bytes length

def record (length : Nat) : Decoder (Nat × List UInt8) := do
  return (← Decoder.position, ← take length)

theorem failsInPlace_record (position length : Nat) :
    (record length).FailsInPlace position length := by
  intro rest few
  have takes : record length (.reading position rest) =
      (take length >>= fun bytes => pure (position, bytes)) (.reading position rest) := rfl
  rw [takes, bind_apply, failsInPlace_take _ _ rest few]

theorem reads_record (position length : Nat) :
    (record length).Reads position length (Prod.mk position) := by
  have step := (reads_position position).bind fun found =>
    (reads_take position length).bind fun bytes => Reads.pure _ (found, bytes)
  rw [Nat.add_zero, Nat.zero_add] at step
  exact step.congr fun bytes enough => by simp [← enough]

theorem reads_records (position count length : Nat) :
    (records count length).Reads position (length * count)
      (partValues length Prod.mk position count) :=
  reads_times (fun position => reads_record position length) count

def parts (size : Nat) : (count : Nat) → List UInt8 → List (List UInt8)
  | 0, _ => []
  | count + 1, bytes => bytes.take size :: parts size count (bytes.drop size)

theorem map_snd_partValues (count : Nat) (bytes : List UInt8) :
    (partValues size Prod.mk position count bytes).map Prod.snd = parts size count bytes := by
  induction count generalizing position bytes with
  | zero => rfl
  | succ count ih => rw [partValues, List.map_cons, ih, parts]

theorem parts_flatMap {γ : Type} {encode : γ → List UInt8} (items : List γ)
    (length : ∀ item ∈ items, (encode item).length = size) :
    parts size items.length (items.flatMap encode) = items.map encode := by
  induction items with
  | nil => rfl
  | cons item rest ih =>
      have first := length item List.mem_cons_self
      rw [List.flatMap_cons, List.length_cons, parts, List.take_left' first,
        List.drop_left' first, List.map_cons,
        ih fun other member => length other (List.mem_cons_of_mem _ member)]

def gapTo (unit position : Nat) : Nat := (unit - position % unit) % unit

theorem align_apply (unit : Nat) (rest : List UInt8) :
    align unit (.reading position rest) =
      (if position % unit ≠ 0 then discard (take (unit - position % unit)) else pure ())
        (.reading position rest) := rfl

theorem gapTo_of_aligned {unit : Nat} (aligned : position % unit = 0) :
    gapTo unit position = 0 := by
  rw [gapTo, aligned, Nat.sub_zero, Nat.mod_self]

theorem gapTo_of_not_aligned {unit : Nat} (positive : 0 < unit) (between : position % unit ≠ 0) :
    gapTo unit position = unit - position % unit :=
  Nat.mod_eq_of_lt (by omega)

theorem dvd_gapTo {unit : Nat} (positive : 0 < unit) (position : Nat) :
    unit ∣ position + gapTo unit position := by
  by_cases aligned : position % unit = 0
  · rw [gapTo_of_aligned aligned]
    exact Nat.dvd_of_mod_eq_zero aligned
  · have whole := Nat.div_add_mod position unit
    have below := Nat.mod_lt position positive
    rw [gapTo_of_not_aligned positive aligned]
    refine ⟨position / unit + 1, ?_⟩
    rw [Nat.mul_succ]
    omega

theorem failsInPlace_align {unit : Nat} (positive : 0 < unit) (position : Nat) :
    (align unit).FailsInPlace position (gapTo unit position) := by
  intro rest few
  by_cases aligned : position % unit = 0
  · rw [gapTo_of_aligned aligned] at few
    exact absurd few (Nat.not_lt_zero _)
  · rw [gapTo_of_not_aligned positive aligned] at few ⊢
    have skips : discard (take (unit - position % unit)) (.reading position rest) =
        (take (unit - position % unit) >>= fun _ => pure ()) (.reading position rest) := rfl
    rw [align_apply, if_pos aligned, skips, bind_apply, failsInPlace_take _ _ rest few]

theorem reads_alignTo {unit : Nat} (positive : 0 < unit) (position : Nat) :
    (align unit).Reads position (gapTo unit position) fun _ => () where
  whole := by
    intro rest enough
    by_cases aligned : position % unit = 0
    · rw [align_apply, if_neg (fun different => different aligned), gapTo_of_aligned aligned]
      rfl
    · have step := (reads_take position (unit - position % unit)).bind fun _ => Reads.pure _ ()
      rw [gapTo_of_not_aligned positive aligned] at enough ⊢
      rw [align_apply, if_pos aligned]
      exact step.whole rest enough
  short := (failsInPlace_align positive position).starves

theorem reads_align (position : Nat) :
    (align 8).Reads position (roundUp position - position) fun _ => () := by
  have gap : gapTo 8 position = roundUp position - position := by
    rw [gapTo, roundUp]
    omega
  exact gap ▸ reads_alignTo (by decide) position

end Decoder

end SandboxPolicy
