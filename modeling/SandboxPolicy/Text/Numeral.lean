import SandboxPolicy.Text.Character

/-!
Numbers in a text: decimal digits with an optional plus sign in front, up to a greatest value.
-/

namespace SandboxPolicy

def digitsValue (digits : List Char) : Nat :=
  digits.foldl (fun value c => value * 10 + (c.toNat - '0'.toNat)) 0

/-- The number that the digits denote, unless there are none or it is above the greatest value. -/
def readDigits (greatest : Nat) (digits : List Char) : Option Nat :=
  if digits.isEmpty || !digits.all isDigit then none
  else if digitsValue digits ≤ greatest then some (digitsValue digits) else none

def readNumber (greatest : Nat) (text : String) : Option Nat :=
  match text.toList with
  | '+' :: digits => readDigits greatest digits
  | digits => readDigits greatest digits

end SandboxPolicy
