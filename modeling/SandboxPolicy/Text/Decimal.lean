import SandboxPolicy.Text.Quoted

/-!
Binary fractions in decimal: the fewest digits that read back as the same number, and of those the
digits nearest to it. Numbers from a hundred-thousandth up to sixteen places before the point are
written with a point, the others with an exponent.
-/

namespace SandboxPolicy

structure BinaryFraction where
  mantissa : Nat
  exponent : Int
deriving Repr, DecidableEq, Inhabited

namespace BinaryFraction

def hiddenBit : Nat := 0x10000000000000

def ofBits (bits : UInt64) : BinaryFraction :=
  let fraction := bits.toNat % hiddenBit
  let scale := bits.toNat / hiddenBit % 0x800
  if scale = 0 then ⟨fraction, -1074⟩ else ⟨hiddenBit + fraction, Int.ofNat scale - 1075⟩

/-- Both sides of a comparison of `left` times a power of ten with `right` times a power of two,
free of negative powers. -/
def sides (left : Nat) (ten : Int) (right : Nat) (two : Int) : Nat × Nat :=
  (left * Nat.pow 10 ten.toNat * Nat.pow 2 (-two).toNat,
    right * Nat.pow 2 two.toNat * Nat.pow 10 (-ten).toNat)

/-- Does `digits` times the power of ten round to the number? The numbers that do lie between the
midpoints to its neighbours, and those midpoints belong to the even one. -/
def covers (number : BinaryFraction) (digits : Nat) (ten : Int) : Bool :=
  let below := if number.mantissa = hiddenBit then 1 else 2
  let quarter := number.exponent - 2
  let (left, low) := sides digits ten (4 * number.mantissa - below) quarter
  let (_, high) := sides digits ten (4 * number.mantissa + 2) quarter
  if number.mantissa % 2 = 0 then low ≤ left && left ≤ high else low < left && left < high

def leadingPower (number : BinaryFraction) : Int :=
  let fits := fun power : Int =>
    let (left, right) := sides 1 power number.mantissa number.exponent
    left ≤ right
  (((List.range 640).map fun index => Int.ofNat 320 - Int.ofNat index).find? fits).getD (-324)

/-- The better of the two neighbours of the number among the multiples of a power of ten. -/
def nearest? (number : BinaryFraction) (ten : Int) : Option Nat :=
  let (unit, value) := sides 1 ten number.mantissa number.exponent
  let lower := value / unit
  let candidates := [lower, lower + 1].filter fun digits => number.covers digits ten
  match candidates with
  | [low, high] => some (if 2 * (value % unit) ≤ unit then low else high)
  | candidates => candidates.head?

def withoutZeros : Nat → Nat → Int → Nat × Int
  | 0, digits, ten => (digits, ten)
  | steps + 1, digits, ten =>
      if digits ≠ 0 ∧ digits % 10 = 0 then withoutZeros steps (digits / 10) (ten + 1)
      else (digits, ten)

/-- The fewest digits that read back as the number, and their power of ten. -/
def shortest (number : BinaryFraction) : Nat × Int :=
  let leading := number.leadingPower
  let found := (List.range 17).findSome? fun count =>
    (number.nearest? (leading - Int.ofNat count)).map fun digits =>
      (digits, leading - Int.ofNat count)
  let (digits, ten) := found.getD (0, 0)
  withoutZeros 17 digits ten

end BinaryFraction

def zeros (count : Nat) : List Char := List.replicate count '0'

def decimalChars (digits : Nat) (ten : Int) : List Char :=
  let text := Nat.toDigits 10 digits
  let point := Int.ofNat text.length + ten
  if 0 ≤ ten ∧ point ≤ 16 then text ++ zeros ten.toNat ++ ['.', '0']
  else if 0 < point ∧ point ≤ 16 then
    text.take point.toNat ++ ['.'] ++ text.drop point.toNat
  else if -5 < point ∧ point ≤ 0 then ['0', '.'] ++ zeros (-point).toNat ++ text
  else
    let fraction := match text.drop 1 with
      | [] => []
      | rest => '.' :: rest
    let sign := if point ≤ 0 then [] else ['+']
    text.take 1 ++ fraction ++ ['e'] ++ sign ++ (toString (point - 1)).toList

def decimalText (value : Float) : String :=
  let sign := if 0x8000000000000000 ≤ value.toBits.toNat then "-" else ""
  let number := BinaryFraction.ofBits value.toBits
  if number.mantissa = 0 then sign ++ "0.0"
  else
    let (digits, ten) := number.shortest
    sign ++ String.ofList (decimalChars digits ten)

end SandboxPolicy
