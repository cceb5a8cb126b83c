import SandboxPolicy.Text.Quoted
import SandboxPolicy.Text.Utf8

/-!
A place in a JSON document. A fault is reported by line and column, where columns count bytes.
-/

namespace SandboxPolicy

inductive JsonFault where
  | endInList
  | endInObject
  | endInText
  | endInValue
  | expectedColon
  | expectedListEnd
  | expectedObjectEnd
  | expectedWord
  | expectedValue
  | invalidEscape
  | incompleteEscape
  | loneSurrogate
  | controlCharacter
  | invalidNumber
  | numberOutOfRange
  | keyNotText
  | trailingComma
  | trailingCharacters
  | wrongType (found expected : String)
  | unknownVariant (name : String) (known : List String)
  | duplicateField (name : String)
deriving Repr, DecidableEq, Inhabited

def JsonFault.message : JsonFault → String
  | .endInList => "EOF while parsing a list"
  | .endInObject => "EOF while parsing an object"
  | .endInText => "EOF while parsing a string"
  | .endInValue => "EOF while parsing a value"
  | .expectedColon => "expected `:`"
  | .expectedListEnd => "expected `,` or `]`"
  | .expectedObjectEnd => "expected `,` or `\x7d`"
  | .expectedWord => "expected ident"
  | .expectedValue => "expected value"
  | .invalidEscape => "invalid escape"
  | .incompleteEscape => "unexpected end of hex escape"
  | .loneSurrogate => "lone leading surrogate in hex escape"
  | .controlCharacter => "control character (\\u0000-\\u001F) found while parsing a string"
  | .invalidNumber => "invalid number"
  | .numberOutOfRange => "number out of range"
  | .keyNotText => "key must be a string"
  | .trailingComma => "trailing comma"
  | .trailingCharacters => "trailing characters"
  | .wrongType found expected => "invalid type: " ++ found ++ ", expected " ++ expected
  | .unknownVariant name known =>
      "unknown variant `" ++ name ++ "`, expected " ++
        " or ".intercalate (known.map fun other => "`" ++ other ++ "`")
  | .duplicateField name => "duplicate field `" ++ name ++ "`"

structure JsonError where
  fault : JsonFault
  line : Nat
  column : Nat
deriving Repr, DecidableEq, Inhabited

def JsonError.message (error : JsonError) : String :=
  error.fault.message ++ s!" at line {error.line} column {error.column}"

structure JsonCursor where
  rest : List UInt8
  line : Nat
  column : Nat
deriving Repr, DecidableEq, Inhabited

abbrev ReadJson := EStateM JsonError JsonCursor

namespace JsonCursor

def ofBytes (bytes : List UInt8) : JsonCursor := ⟨bytes, 1, 0⟩

def advance : Nat → JsonCursor → JsonCursor
  | 0, cursor => cursor
  | count + 1, cursor =>
      match cursor.rest with
      | [] => cursor
      | byte :: rest =>
          if byte = 0x0a then advance count ⟨rest, cursor.line + 1, 0⟩
          else advance count ⟨rest, cursor.line, cursor.column + 1⟩

end JsonCursor

namespace ReadJson

def peek : ReadJson (Option Char) := return (← get).rest.head?.map fun byte => Char.ofNat byte.toNat

def skip (count : Nat) : ReadJson Unit := modify (JsonCursor.advance count)

def next : ReadJson (Option Char) := do
  let found ← peek
  skip 1
  return found

def failHere {α : Type} (fault : JsonFault) : ReadJson α := do
  let cursor ← get
  throw ⟨fault, cursor.line, cursor.column⟩

def failAhead {α : Type} (fault : JsonFault) : ReadJson α := do
  let cursor := (← get).advance 1
  throw ⟨fault, cursor.line, cursor.column⟩

def isBlankByte (byte : UInt8) : Bool :=
  byte = 0x20 || byte = 0x0a || byte = 0x09 || byte = 0x0d

def peekSolid : ReadJson (Option Char) := do
  skip ((← get).rest.takeWhile isBlankByte).length
  peek

def word : List Char → ReadJson Unit
  | [] => return ()
  | c :: rest => do
      match ← next with
      | none => failHere .endInValue
      | some found => if found = c then word rest else failHere .expectedWord

end ReadJson

end SandboxPolicy
