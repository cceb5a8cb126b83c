import SandboxPolicy.Json.Skip
import SandboxPolicy.Text.Decimal
import SandboxPolicy.Text.Numeral

/-!
Numbers of a JSON document, read only to say what stands where something else was expected. A
number without point and exponent is an integer as long as it fits into 64 bits.
-/

namespace SandboxPolicy

/-- The leading digits of a number as far as they fit, and the power of ten that goes with them. -/
structure Significand where
  value : Nat
  power : Int
  full : Bool
deriving Repr, DecidableEq, Inhabited

namespace Significand

def zero : Significand := ⟨0, 0, false⟩

def greatest : Nat := 0xffffffffffffffff

/-- Takes one more digit; once there is no room, digits before the point only count. -/
def push (beforePoint : Bool) (significand : Significand) (byte : UInt8) : Significand :=
  let next := significand.value * 10 + (byte.toNat - 0x30)
  if significand.full || Significand.greatest < next then
    ⟨significand.value, if beforePoint then significand.power + 1 else significand.power, true⟩
  else ⟨next, if beforePoint then significand.power else significand.power - 1, false⟩

/-- Multiplies by a power of ten in steps that the format can represent. -/
def scale : Nat → Float → Int → Float
  | 0, value, _ => value
  | steps + 1, value, power =>
      if value == 0 then value
      else if 0 ≤ power then value * Float.ofScientific 1 false power.toNat
      else if -308 ≤ power then value / Float.ofScientific 1 false (-power).toNat
      else scale steps (value / Float.ofScientific 1 false 308) (power + 308)

def toFloat? (significand : Significand) : Option Float :=
  let value := (UInt64.ofNat significand.value).toFloat
  if value == 0 then some value
  else if 308 < significand.power then none
  else
    let scaled := scale 4 value significand.power
    if scaled.isInf then none else some scaled

end Significand

namespace ReadJson

def fraction (positive : Bool) (significand : Significand) : ReadJson String := do
  match significand.toFloat? with
  | none => failHere .numberOutOfRange
  | some value =>
      return "floating point `" ++ decimalText (if positive then value else -value) ++ "`"

def integer (positive : Bool) (significand : Significand) : ReadJson String :=
  if significand.full then fraction positive significand
  else if positive then return s!"integer `{significand.value}`"
  else if 0 < significand.value ∧ significand.value ≤ 0x8000000000000000 then
    return s!"integer `-{significand.value}`"
  else fraction false significand

def greatestExponent : Nat := 0x7fffffff

/-- Reads the digits of an exponent after a first one. A digit that leaves no room is a fault there
and then, if the number grows with its exponent. -/
def exponentDigits (bounded : Bool) (value : Nat) : List UInt8 → ReadJson Nat
  | [] => return value
  | byte :: rest => do
      skip 1
      let value := value * 10 + (byte.toNat - 0x30)
      if bounded && greatestExponent < value then failHere .numberOutOfRange
      exponentDigits bounded value rest

def exponent (positive : Bool) (significand : Significand) : ReadJson String := do
  skip 1
  let grows ← match ← peek with
    | some '+' => do
        skip 1
        pure true
    | some '-' => do
        skip 1
        pure false
    | _ => pure true
  match ← next with
  | none => failHere .endInValue
  | some c =>
      if !c.isDigit then failHere .invalidNumber
      let more := (← get).rest.takeWhile isDigitByte
      let size ← exponentDigits (grows && significand.value ≠ 0) (digitsValue [c]) more
      let power := significand.power + if grows then Int.ofNat size else -Int.ofNat size
      fraction positive { significand with power }

def afterPoint (positive : Bool) (significand : Significand) : ReadJson String := do
  skip 1
  let found ← digits
  if found.isEmpty then
    match ← peek with
    | some _ => failAhead .invalidNumber
    | none => failAhead .endInValue
  let significand := found.foldl (Significand.push false) { significand with full := false }
  match ← peek with
  | some 'e' | some 'E' => exponent positive significand
  | _ => fraction positive significand

def afterInteger (positive : Bool) (significand : Significand) : ReadJson String := do
  match ← peek with
  | some '.' => afterPoint positive significand
  | some 'e' | some 'E' => exponent positive significand
  | _ => integer positive significand

def number (positive : Bool) : ReadJson String := do
  match ← next with
  | none => failHere .endInValue
  | some '0' =>
      if (← peek).any Char.isDigit then failAhead .invalidNumber
      afterInteger positive .zero
  | some c =>
      if !c.isDigit then failHere .invalidNumber
      let first := Significand.push true .zero c.toUInt8
      afterInteger positive ((← digits).foldl (Significand.push true) first)

def wrongType {α : Type} (expected : String) : ReadJson α := do
  let found ← match ← peek with
    | some 'n' => do
        skip 1
        word ['u', 'l', 'l']
        pure "null"
    | some 't' => do
        skip 1
        word ['r', 'u', 'e']
        pure "boolean `true`"
    | some 'f' => do
        skip 1
        word ['a', 'l', 's', 'e']
        pure "boolean `false`"
    | some '-' => do
        skip 1
        number false
    | some '"' => do
        skip 1
        pure ("string " ++ quoted (← text))
    | some '[' => pure "sequence"
    | some '\x7b' => pure "map"
    | some c => if c.isDigit then number true else failAhead .expectedValue
    | none => failAhead .expectedValue
  failHere (.wrongType found expected)

end ReadJson

end SandboxPolicy
