/-!
JSON values. Objects keep the order of their members; a number that is no integer keeps its text.
-/

namespace SandboxPolicy

inductive Json where
  | null
  | bool (value : Bool)
  | number (value : Int)
  | decimal (text : String)
  | str (text : String)
  | array (items : List Json)
  | object (members : List (String × Json))
deriving Repr, Inhabited

namespace Json

def ofNat (value : Nat) : Json := .number (Int.ofNat value)

def ofOption {α : Type} (encode : α → Json) : Option α → Json
  | none => .null
  | some value => encode value

def strings (texts : List String) : Json := .array (texts.map .str)

def member? (name : String) : Json → Option Json
  | .object members => (members.find? fun entry => entry.1 = name).map Prod.snd
  | _ => none

/-- The values of a record, which is an object with members of these names or an array that gives
one value for each name. -/
def fields? (names : List String) (json : Json) : Option (List (Option Json)) :=
  match json with
  | .object _ => some (names.map fun name => json.member? name)
  | .array items => if items.length = names.length then some (items.map some) else none
  | _ => none

def constant? : Json → Option String
  | .str name => some name
  | .object [(name, .null)] => some name
  | _ => none

end Json

end SandboxPolicy
