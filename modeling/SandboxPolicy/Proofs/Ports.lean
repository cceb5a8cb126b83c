import SandboxPolicy.Evaluator
import SandboxPolicy.Proofs.FormReading
import SandboxPolicy.Proofs.Splitting

/-!
Ports of addresses. The validator reads the port of a pattern as a number, the evaluator compares
it as a text with the port that is asked about. So a pattern decides about its number just when it
spells it without a sign and without zeros in front.
-/

namespace SandboxPolicy

/-! Decimal numerals. -/

/-- Neither a sign nor zeros stand in front. -/
def IsPlain (numeral : List Char) : Prop :=
  numeral.head? ≠ some '+' ∧ (numeral.head? = some '0' → numeral = ['0'])

instance (numeral : List Char) : Decidable (IsPlain numeral) :=
  inferInstanceAs (Decidable (_ ∧ _))

theorem isDigit_iff {c : Char} : isDigit c = true ↔ 48 ≤ c.toNat ∧ c.toNat ≤ 57 := by
  simp only [isDigit, Bool.and_eq_true, decide_eq_true_eq, Char.le_def]
  exact Iff.rfl

theorem digitChar_digit {c : Char} (digit : isDigit c = true) :
    Nat.digitChar (c.toNat - '0'.toNat) = c := by
  obtain ⟨lower, upper⟩ := isDigit_iff.mp digit
  have zero : '0'.toNat = 48 := rfl
  apply Char.toNat_inj.mp
  rw [zero, Nat.toNat_digitChar_of_lt_ten (by omega)]
  omega

theorem digitsValue_concat (front : List Char) (c : Char) :
    digitsValue (front ++ [c]) = 10 * digitsValue front + (c.toNat - '0'.toNat) := by
  simp [digitsValue, Nat.mul_comm]

theorem toDigits_digitsValue {digits : List Char} (nonempty : digits ≠ [])
    (all : ∀ c ∈ digits, isDigit c = true) (plain : digits.head? = some '0' → digits = ['0']) :
    Nat.toDigits 10 (digitsValue digits) = digits := by
  induction digits using List.reverseRecOn with
  | nil => exact absurd rfl nonempty
  | append_singleton front c ih =>
      have digit := all c (by simp)
      have small : c.toNat - '0'.toNat < 10 := by
        have bounds := isDigit_iff.mp digit
        have zero : '0'.toNat = 48 := rfl
        omega
      rw [digitsValue_concat]
      by_cases single : front = []
      · rw [single, digitsValue, List.foldl_nil, Nat.mul_zero, Nat.zero_add,
          Nat.toDigits_of_lt_base small, digitChar_digit digit, List.nil_append]
      · have started : front.head? ≠ some '0' := by
          intro zero
          have whole := plain (by rw [List.head?_append, zero]; rfl)
          exact single (List.append_eq_singleton_iff.mp whole |>.resolve_right
            (fun other => by simp at other) |>.1)
        have front_digits := ih single (fun d member => all d (by simp [member]))
          (fun zero => absurd zero started)
        have positive : 0 < digitsValue front := by
          rw [Nat.pos_iff_ne_zero]
          intro zero
          rw [zero] at front_digits
          exact started (by rw [← front_digits]; rfl)
        rw [← Nat.toDigits_append_toDigits (by decide) positive small, front_digits,
          Nat.toDigits_of_lt_base small, digitChar_digit digit]

theorem zero_of_head_toDigits {number : Nat}
    (zero : (Nat.toDigits 10 number).head? = some '0') : number = 0 := by
  induction number using Nat.strongRecOn with
  | ind number ih =>
      rw [Nat.toDigits_eq_if (by decide)] at zero
      split at zero
      next small =>
        have digit : Nat.digitChar number = '0' := Option.some.inj zero
        have code := congrArg Char.toNat digit
        rw [Nat.toNat_digitChar_of_lt_ten small] at code
        exact Nat.add_left_cancel code
      next large =>
        rw [List.head?_append_of_ne_nil _ Nat.toDigits_ne_nil] at zero
        have smaller := ih (number / 10) (by omega) zero
        omega

theorem isPlain_number (number : Nat) : IsPlain (toString number).toList := by
  refine ⟨fun signed => ?_, fun zero => ?_⟩
  · exact absurd (isDigit_of_mem_number number '+' (List.mem_of_head? signed)) (by decide)
  · rw [toList_number] at zero
    rw [zero_of_head_toDigits zero]
    rfl

theorem readNumber_eq_some {greatest number : Nat} {text : List Char}
    (read : readNumber greatest (String.ofList text) = some number) :
    ∃ digits, (text = digits ∨ text = '+' :: digits) ∧ digits ≠ [] ∧
      (∀ c ∈ digits, isDigit c = true) ∧ digitsValue digits = number := by
  have ofDigits {digits : List Char} (read : readDigits greatest digits = some number) :
      digits ≠ [] ∧ (∀ c ∈ digits, isDigit c = true) ∧ digitsValue digits = number := by
    rw [readDigits] at read
    split at read
    next => cases read
    next sound =>
      split at read
      next => exact ⟨by simp_all, by simp_all, Option.some.inj read⟩
      next => cases read
  rw [readNumber, String.toList_ofList] at read
  split at read
  next digits => exact ⟨digits, .inr rfl, ofDigits read⟩
  next => exact ⟨text, .inl rfl, ofDigits read⟩

theorem eq_of_readNumber {greatest number other : Nat}
    (read : readNumber greatest (String.ofList (toString other).toList) = some number) :
    other = number := by
  obtain ⟨digits, same | signed, _, _, value⟩ := readNumber_eq_some read
  · rw [← value, ← same, digitsValue_number]
  · exact absurd (by rw [signed]; rfl) (isPlain_number other).1

theorem eq_number_iff {greatest number : Nat} {text : List Char}
    (read : readNumber greatest (String.ofList text) = some number) :
    text = (toString number).toList ↔ IsPlain text := by
  constructor
  · rintro rfl
    exact isPlain_number number
  · rintro ⟨unsigned, plain⟩
    obtain ⟨digits, rfl | rfl, nonempty, all, rfl⟩ := readNumber_eq_some read
    · rw [toList_number, toDigits_digitsValue nonempty all plain]
    · exact absurd rfl unsigned

/-! Addresses. -/

theorem addressMatches_iff {pattern patternHost patternPort host port : List Char}
    (parts : splitLast? ':' pattern = some (patternHost, patternPort)) (single : ':' ∉ port) :
    addressMatches pattern (host ++ ':' :: port) = true ↔
      (patternHost = ['*'] ∨ patternHost = host) ∧ (patternPort = ['*'] ∨ patternPort = port) := by
  rw [addressMatches, parts, splitLast?_eq_some.mpr ⟨rfl, single⟩]
  simp

theorem colon_not_mem_number (number : Nat) : ':' ∉ (toString number).toList := fun member =>
  absurd (isDigit_of_mem_number number ':' member) (by decide)

theorem checkAddress_eq_ok {address : String} : checkAddress address = .ok () ↔
    ∃ host port, splitLast? ':' address.toList = some (host, port) ∧ host ≠ [] ∧
      (port ≠ ['*'] → ∃ number, readNumber 0xffff (String.ofList port) = some number) := by
  rw [checkAddress]
  split
  next unsplit => simp [unsplit]
  next host port parts =>
    simp only [parts, Option.some.injEq, Prod.mk.injEq, ← Option.ne_none_iff_exists']
    by_cases nothing : host = []
    · simp_all
    · by_cases star : port = ['*']
      · simp_all
      · cases read : readNumber 0xffff (String.ofList port) <;> simp_all

/-- A pattern that the validator accepts has a star or a number as its port. It matches the numeral
of no other number, and that of its own just when it is written plainly itself. -/
theorem addressMatches_port {address : String} (accepted : checkAddress address = .ok ()) :
    ∃ patternHost port, splitLast? ':' address.toList = some (patternHost, port) ∧
      (port ≠ ['*'] → ∃ number, readNumber 0xffff (String.ofList port) = some number ∧
        ∀ host, patternHost = ['*'] ∨ patternHost = host →
          (addressMatches address.toList (host ++ ':' :: (toString number).toList) = true ↔
            IsPlain port) ∧
          ∀ other ≠ number,
            addressMatches address.toList (host ++ ':' :: (toString other).toList) = false) := by
  obtain ⟨patternHost, port, parts, _, numbered⟩ := checkAddress_eq_ok.mp accepted
  refine ⟨patternHost, port, parts, fun numeric => ?_⟩
  obtain ⟨number, read⟩ := numbered numeric
  refine ⟨number, read, fun host admitted => ⟨?_, fun other different => ?_⟩⟩
  · rw [addressMatches_iff parts (colon_not_mem_number number), or_iff_right numeric,
      eq_number_iff read, and_iff_right admitted]
  · rw [Bool.eq_false_iff, ne_eq, addressMatches_iff parts (colon_not_mem_number other),
      or_iff_right numeric]
    rintro ⟨_, rfl⟩
    exact different (eq_of_readNumber read)

theorem addressMatches_port_colons :
    checkAddress "*:8080" = .ok () ∧ addressMatches "*:8080".toList "::1:8080".toList = true := by
  have accepted : checkAddress "*:8080" = .ok () := by decide
  refine ⟨accepted, ?_⟩
  obtain ⟨patternHost, port, parts, decides⟩ := addressMatches_port accepted
  have known : splitLast? ':' "*:8080".toList = some (['*'], "8080".toList) := by decide
  obtain ⟨rfl, rfl⟩ := Prod.mk.inj (Option.some.inj (known.symm.trans parts))
  obtain ⟨number, read, matching⟩ := decides (by decide)
  have value : readNumber 0xffff (String.ofList "8080".toList) = some 8080 := by decide
  obtain rfl := Option.some.inj (value.symm.trans read)
  exact (matching "::1".toList (.inl rfl)).1.mpr (by decide)

/-- A zero in front is accepted and makes a port that no numeral matches. -/
theorem addressMatches_port_zero :
    ¬∀ (address : String) (patternHost port host : List Char) (number : Nat),
      checkAddress address = .ok () →
      splitLast? ':' address.toList = some (patternHost, port) → port ≠ ['*'] →
      readNumber 0xffff (String.ofList port) = some number →
      patternHost = ['*'] ∨ patternHost = host →
      addressMatches address.toList (host ++ ':' :: (toString number).toList) = true := by
  intro agrees
  have matching := agrees "localhost:080" "localhost".toList "080".toList "localhost".toList 80
    (by decide) (by decide) (by decide) (by decide) (.inr rfl)
  exact absurd matching (by decide)

end SandboxPolicy
