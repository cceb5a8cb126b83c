import SandboxPolicy.Json.Basic
import SandboxPolicy.Text.Quoted

/-!
The text of a JSON value, spread over lines with two blanks for each level.
-/

namespace SandboxPolicy.Json

def escapeChar (c : Char) : List Char :=
  if c = '"' then ['\\', '"']
  else if c = '\\' then ['\\', '\\']
  else if c = '\n' then ['\\', 'n']
  else if c = '\r' then ['\\', 'r']
  else if c = '\t' then ['\\', 't']
  else if c = '\x08' then ['\\', 'b']
  else if c = '\x0c' then ['\\', 'f']
  else if c.toNat < 0x20 then ['\\', 'u'] ++ (hexDigits c.toNat).leftpad 4 '0'
  else [c]

def quote (text : String) : String :=
  "\"" ++ String.ofList (text.toList.flatMap escapeChar) ++ "\""

def lineBreak (level : Nat) : String := "\n" ++ String.ofList (List.replicate (2 * level) ' ')

mutual

/-- The text of a value whose first line is already indented to its level. -/
def print (level : Nat) : Json → String
  | .null => "null"
  | .bool value => if value then "true" else "false"
  | .number value => toString value
  | .decimal text => text
  | .str text => quote text
  | .array [] => "[]"
  | .array (item :: rest) =>
      "[" ++ lineBreak (level + 1) ++ item.print (level + 1) ++ printItems (level + 1) rest ++
        lineBreak level ++ "]"
  | .object [] => "\x7b\x7d"
  | .object ((name, value) :: rest) =>
      "\x7b" ++ lineBreak (level + 1) ++ quote name ++ ": " ++ value.print (level + 1) ++
        printMembers (level + 1) rest ++ lineBreak level ++ "\x7d"

def printItems (level : Nat) : List Json → String
  | [] => ""
  | item :: rest => "," ++ lineBreak level ++ item.print level ++ printItems level rest

def printMembers (level : Nat) : List (String × Json) → String
  | [] => ""
  | (name, value) :: rest =>
      "," ++ lineBreak level ++ quote name ++ ": " ++ value.print level ++ printMembers level rest

end

def render (json : Json) : String := json.print 0

end SandboxPolicy.Json
