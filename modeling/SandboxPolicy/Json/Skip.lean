import SandboxPolicy.Json.Text

/-!
Passing over values of a JSON document that nobody asks for.
-/

namespace SandboxPolicy.ReadJson

def isDigitByte (byte : UInt8) : Bool := 0x30 ≤ byte && byte ≤ 0x39

def digits : ReadJson (List UInt8) := do
  let found := (← get).rest.takeWhile isDigitByte
  skip found.length
  return found

def skipExponent : ReadJson Unit := do
  match ← peek with
  | some 'e' | some 'E' => do
      skip 1
      match ← peek with
      | some '+' | some '-' => skip 1
      | _ => pure ()
      match ← next with
      | some c => if c.isDigit then discard digits else failHere .invalidNumber
      | none => failHere .invalidNumber
  | _ => return ()

def skipNumber : ReadJson Unit := do
  match ← next with
  | some '0' =>
      if ((← peek).any Char.isDigit) then failAhead .invalidNumber
  | some c => if c.isDigit then discard digits else failHere .invalidNumber
  | none => failHere .invalidNumber
  match ← peek with
  | some '.' => do
      skip 1
      if (← digits).isEmpty then failAhead .invalidNumber
      skipExponent
  | _ => skipExponent

def skipKey : ReadJson Unit := do
  match ← peekSolid with
  | some '"' => skip 1
  | some _ => failAhead .keyNotText
  | none => failAhead .endInObject
  skipText
  match ← peekSolid with
  | some ':' => skip 1
  | some _ => failAhead .expectedColon
  | none => failAhead .endInObject

mutual

/-- Passes over a value. Every step reads a byte, so as many steps as there are bytes suffice. -/
def skipValue : Nat → ReadJson Unit
  | 0 => failAhead .endInValue
  | steps + 1 => do
      match ← peekSolid with
      | none => failAhead .endInValue
      | some 'n' => do
          skip 1
          word ['u', 'l', 'l']
      | some 't' => do
          skip 1
          word ['r', 'u', 'e']
      | some 'f' => do
          skip 1
          word ['a', 'l', 's', 'e']
      | some '-' => do
          skip 1
          skipNumber
      | some '"' => do
          skip 1
          skipText
      | some '[' => do
          skip 1
          match ← peekSolid with
          | some ']' => skip 1
          | none => failAhead .endInList
          | some _ => skipItems steps
      | some '\x7b' => do
          skip 1
          match ← peekSolid with
          | some '\x7d' => skip 1
          | none => failAhead .endInObject
          | some _ => skipMembers steps
      | some c => if c.isDigit then skipNumber else failAhead .expectedValue

def skipItems : Nat → ReadJson Unit
  | 0 => failAhead .endInList
  | steps + 1 => do
      skipValue steps
      match ← peekSolid with
      | some ',' => do
          skip 1
          skipItems steps
      | some ']' => skip 1
      | some _ => failAhead .expectedListEnd
      | none => failAhead .endInList

def skipMembers : Nat → ReadJson Unit
  | 0 => failAhead .endInObject
  | steps + 1 => do
      skipKey
      skipValue steps
      match ← peekSolid with
      | some ',' => do
          skip 1
          skipMembers steps
      | some '\x7d' => skip 1
      | some _ => failAhead .expectedObjectEnd
      | none => failAhead .endInObject

end

def skipAny : ReadJson Unit := do
  skipValue (2 * (← get).rest.length + 2)

end SandboxPolicy.ReadJson
