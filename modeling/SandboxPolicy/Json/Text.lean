import SandboxPolicy.Json.Cursor

/-!
Texts of a JSON document, from behind the first quote to the last. A text that is only passed over
may hold escapes of lone surrogates.
-/

namespace SandboxPolicy

/-- Where in a text a scan is: between characters, in an escape, or between the two escapes of a
character that takes a pair of surrogates. -/
inductive TextMode where
  | plain
  | escape
  | hex (high : Option Nat) (digits : List UInt8)
  | pairStart (high : Nat)
  | pairEscape (high : Nat)
deriving Repr, DecidableEq, Inhabited

def hexValue? (byte : UInt8) : Option Nat :=
  let code := byte.toNat
  if 0x30 ≤ code ∧ code ≤ 0x39 then some (code - 0x30)
  else if 0x41 ≤ code ∧ code ≤ 0x46 then some (code - 0x41 + 10)
  else if 0x61 ≤ code ∧ code ≤ 0x66 then some (code - 0x61 + 10)
  else none

def hexNumber? (digits : List UInt8) : Option Nat :=
  digits.foldl (fun value byte => do return 16 * (← value) + (← hexValue? byte)) (some 0)

def shortEscape? (code : Char) : Option UInt8 :=
  match code with
  | '"' => some 0x22
  | '\\' => some 0x5c
  | '/' => some 0x2f
  | 'b' => some 0x08
  | 'f' => some 0x0c
  | 'n' => some 0x0a
  | 'r' => some 0x0d
  | 't' => some 0x09
  | _ => none

inductive EscapeUnit where
  | character (code : Nat)
  | firstOfPair (high : Nat)
  | lone
deriving Repr, DecidableEq, Inhabited

def escapeUnit (high : Option Nat) (unit : Nat) : EscapeUnit :=
  match high with
  | none =>
      if unit < 0xd800 ∨ 0xdfff < unit then .character unit
      else if unit < 0xdc00 then .firstOfPair unit
      else .lone
  | some high =>
      if 0xdc00 ≤ unit ∧ unit ≤ 0xdfff then
        .character ((high - 0xd800) * 0x400 + (unit - 0xdc00) + 0x10000)
      else .lone

/-- A fault of a text, and how many bytes lie before the place where it is reported. -/
abbrev TextFault := JsonFault × Nat

/--
Scans a text up to its last quote. `length` counts the bytes read and `taken` holds those of the
text in reverse. If the text is not `wanted`, surrogates are not looked at.
-/
def scanText (wanted : Bool) : TextMode → Nat → List UInt8 → List UInt8 →
    Except TextFault (List UInt8 × Nat)
  | _, length, _, [] => .error (.endInText, length)
  | .plain, length, taken, byte :: rest =>
      if byte = 0x22 then .ok (taken.reverse, length + 1)
      else if byte = 0x5c then scanText wanted .escape (length + 1) taken rest
      else if byte < 0x20 then .error (.controlCharacter, if wanted then length + 1 else length)
      else scanText wanted .plain (length + 1) (byte :: taken) rest
  | .escape, length, taken, byte :: rest =>
      match shortEscape? (Char.ofNat byte.toNat) with
      | some value => scanText wanted .plain (length + 1) (value :: taken) rest
      | none =>
          if byte = 0x75 then scanText wanted (.hex none []) (length + 1) taken rest
          else .error (.invalidEscape, length + 1)
  | .hex high digits, length, taken, byte :: rest =>
      if digits.length < 3 then
        scanText wanted (.hex high (digits ++ [byte])) (length + 1) taken rest
      else
        match hexNumber? (digits ++ [byte]) with
        | none => .error (.invalidEscape, length + 1)
        | some unit =>
            if !wanted then scanText wanted .plain (length + 1) taken rest
            else
              match escapeUnit high unit with
              | .lone => .error (.loneSurrogate, length + 1)
              | .firstOfPair first => scanText wanted (.pairStart first) (length + 1) taken rest
              | .character code =>
                  scanText wanted .plain (length + 1)
                    ((String.utf8EncodeChar (Char.ofNat code)).reverse ++ taken) rest
  | .pairStart high, length, taken, byte :: rest =>
      if byte = 0x5c then scanText wanted (.pairEscape high) (length + 1) taken rest
      else .error (.incompleteEscape, length + 1)
  | .pairEscape high, length, taken, byte :: rest =>
      if byte = 0x75 then scanText wanted (.hex (some high) []) (length + 1) taken rest
      else .error (.incompleteEscape, length + 1)

namespace ReadJson

def scanned (wanted : Bool) : ReadJson (List UInt8) := do
  match scanText wanted .plain 0 [] (← get).rest with
  | .ok (bytes, length) => do
      skip length
      return bytes
  | .error (fault, length) => do
      skip length
      failHere fault

def text : ReadJson String := return (utf8Text? (← scanned true)).getD ""

def skipText : ReadJson Unit := discard (scanned false)

end ReadJson

end SandboxPolicy
