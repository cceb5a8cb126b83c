/-!
Words of two bytes, the low byte first.
-/

namespace SandboxPolicy

def wordOf (low high : UInt8) : UInt16 := UInt16.ofNat (low.toNat + 256 * high.toNat)

def wordBytes (word : UInt16) : List UInt8 :=
  [UInt8.ofNat (word.toNat % 256), UInt8.ofNat (word.toNat / 256)]

def wordsOf : List UInt8 → List UInt16
  | low :: high :: rest => wordOf low high :: wordsOf rest
  | _ => []

def roundUp (size : Nat) : Nat := (size + 7) / 8 * 8

def padded (bytes : List UInt8) : List UInt8 := bytes.rightpad (roundUp bytes.length) 0

theorem wordOf_wordBytes (word : UInt16) :
    wordOf (UInt8.ofNat (word.toNat % 256)) (UInt8.ofNat (word.toNat / 256)) = word := by
  apply UInt16.toNat_inj.mp
  have bound := word.toNat_lt
  simp only [wordOf, UInt16.toNat_ofNat', UInt8.toNat_ofNat']
  omega

theorem wordsOf_flatMap_wordBytes (words : List UInt16) :
    wordsOf (words.flatMap wordBytes) = words := by
  induction words with
  | nil => rfl
  | cons word rest ih => simp [wordBytes, wordsOf, wordOf_wordBytes, ih]

theorem wordOf_toNat (low high : UInt8) :
    (wordOf low high).toNat = low.toNat + 256 * high.toNat := by
  have lowBound := low.toNat_lt
  have highBound := high.toNat_lt
  rw [wordOf, UInt16.toNat_ofNat']
  omega

theorem wordBytes_wordOf (low high : UInt8) : wordBytes (wordOf low high) = [low, high] := by
  have lowBound := low.toNat_lt
  have highBound := high.toNat_lt
  simp only [wordBytes, wordOf_toNat, List.cons.injEq, and_true]
  constructor
  · apply UInt8.toNat_inj.mp
    rw [UInt8.toNat_ofNat']
    omega
  · apply UInt8.toNat_inj.mp
    rw [UInt8.toNat_ofNat']
    omega

theorem wordBytes_length (word : UInt16) : (wordBytes word).length = 2 := rfl

theorem exists_word (count : Nat) {bytes : List UInt8} (even : bytes.length = 2 * (count + 1)) :
    ∃ low high rest, bytes = low :: high :: rest ∧ rest.length = 2 * count := by
  obtain _ | ⟨low, _ | ⟨high, rest⟩⟩ := bytes
  · rw [List.length_nil] at even
    omega
  · rw [List.length_singleton] at even
    omega
  · rw [List.length_cons, List.length_cons] at even
    exact ⟨low, high, rest, rfl, by omega⟩

theorem flatMap_wordsOf (count : Nat) (bytes : List UInt8) (even : bytes.length = 2 * count) :
    (wordsOf bytes).flatMap wordBytes = bytes := by
  induction count generalizing bytes with
  | zero => simp [List.length_eq_zero_iff.mp even, wordsOf]
  | succ count ih =>
      obtain ⟨low, high, rest, rfl, left⟩ := exists_word count even
      rw [wordsOf, List.flatMap_cons, wordBytes_wordOf, ih rest left]
      rfl

theorem wordsOf_length (count : Nat) (bytes : List UInt8) (even : bytes.length = 2 * count) :
    (wordsOf bytes).length = count := by
  have length := congrArg List.length (flatMap_wordsOf count bytes even)
  have words : ((wordsOf bytes).flatMap wordBytes).length = 2 * (wordsOf bytes).length := by
    simp [List.length_flatMap, wordBytes_length, List.map_const', Nat.mul_comm]
  omega

theorem padded_eq (bytes : List UInt8) :
    padded bytes = bytes ++ List.replicate (roundUp bytes.length - bytes.length) 0 := rfl

theorem le_roundUp (size : Nat) : size ≤ roundUp size := by
  rw [roundUp]
  omega

theorem dvd_roundUp (size : Nat) : 8 ∣ roundUp size :=
  ⟨(size + 7) / 8, by rw [roundUp, Nat.mul_comm]⟩

theorem padded_length (bytes : List UInt8) : (padded bytes).length = roundUp bytes.length := by
  have bound := le_roundUp bytes.length
  rw [padded_eq, List.length_append, List.length_replicate]
  omega

end SandboxPolicy
