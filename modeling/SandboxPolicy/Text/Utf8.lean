/-!
Texts as bytes. Reading accepts exactly what writing produces.
-/

namespace SandboxPolicy

def utf8Bytes (text : String) : List UInt8 := text.toUTF8.data.toList

def utf8Text? (bytes : List UInt8) : Option String := String.fromUTF8? ⟨bytes.toArray⟩

theorem utf8Text?_utf8Bytes (text : String) : utf8Text? (utf8Bytes text) = some text := by
  simp only [utf8Text?, utf8Bytes, String.fromUTF8?, String.toUTF8_eq_toByteArray]
  exact dif_pos text.isValidUTF8

theorem utf8Bytes_of_utf8Text? {bytes : List UInt8} {text : String}
    (read : utf8Text? bytes = some text) : utf8Bytes text = bytes := by
  simp only [utf8Text?, String.fromUTF8?, Option.dite_none_right_eq_some] at read
  obtain ⟨valid, spelled⟩ := read
  cases spelled
  simp [utf8Bytes, String.fromUTF8]

/-- How many bytes a character takes and which second bytes it may have, by its first byte. -/
def utf8Shape? (first : UInt8) : Option (Nat × UInt8 × UInt8) :=
  if first < 0x80 then some (1, 0, 0)
  else if first < 0xc2 then none
  else if first < 0xe0 then some (2, 0x80, 0xbf)
  else if first = 0xe0 then some (3, 0xa0, 0xbf)
  else if first = 0xed then some (3, 0x80, 0x9f)
  else if first < 0xf0 then some (3, 0x80, 0xbf)
  else if first = 0xf0 then some (4, 0x90, 0xbf)
  else if first < 0xf4 then some (4, 0x80, 0xbf)
  else if first = 0xf4 then some (4, 0x80, 0x8f)
  else none

/-- How many of the bytes can continue a character of which `count` are still wanted. -/
def continuation (count : Nat) (low high : UInt8) : List UInt8 → Nat
  | [] => 0
  | byte :: rest =>
      match count with
      | 0 => 0
      | wanted + 1 =>
          if low ≤ byte && byte ≤ high then continuation wanted 0x80 0xbf rest + 1 else 0

/--
The first place where bytes are no text, if there is one: its index, and how many bytes from there
are wrong. There is no such number where the bytes end within a character.
-/
def utf8FaultFrom (index : Nat) (bytes : List UInt8) : Option (Nat × Option Nat) :=
  match bytes with
  | [] => none
  | first :: rest =>
      match utf8Shape? first with
      | none => some (index, some 1)
      | some (length, low, high) =>
          let found := continuation (length - 1) low high rest
          if found = length - 1 then utf8FaultFrom (index + length) (rest.drop (length - 1))
          else if found = rest.length then some (index, none)
          else some (index, some (found + 1))
termination_by bytes.length
decreasing_by simp only [List.length_drop, List.length_cons]; omega

def utf8Fault? (bytes : List UInt8) : Option (Nat × Option Nat) := utf8FaultFrom 0 bytes

end SandboxPolicy
