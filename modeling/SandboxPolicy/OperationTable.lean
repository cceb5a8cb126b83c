import SandboxPolicy.Text.Split

/-!
Tables of operation names. The place of a name is the slot of its operation; `default` comes first
and covers every operation, and a name that ends in a star covers those that continue it.
-/

namespace SandboxPolicy

inductive TableError where
  | duplicate (line : Nat) (name : String)
  | missingDefault (found : String)
  | empty
  | tooLarge (count : Nat)
deriving Repr, DecidableEq

def TableError.message : TableError → String
  | .duplicate line name =>
      s!"operation table line {line}: duplicate operation '" ++ name ++ "'"
  | .missingDefault found =>
      "operation table must start with 'default' (found '" ++ found ++ "')"
  | .empty => "operation table is empty"
  | .tooLarge count =>
      s!"operation table has {count} entries; at most 255 fit in a profile header"

/-- Distinct names that start with `default`, as many as the header of a profile can count. -/
structure OperationTable where
  names : List String
  distinct : names.Nodup
  first : names.head? = some "default"
  small : names.length ≤ 255

namespace OperationTable

/-- The first name that occurred before, with its number counted from the given one. -/
def firstRepeat (seen : List String) (number : Nat) : List String → Option (Nat × String)
  | [] => none
  | name :: rest =>
      if name ∈ seen then some (number, name) else firstRepeat (name :: seen) (number + 1) rest

theorem firstRepeat_none (names : List String) (seen : List String) (number : Nat)
    (absent : firstRepeat seen number names = none) :
    names.Nodup ∧ ∀ name ∈ names, name ∉ seen := by
  induction names generalizing seen number with
  | nil => simp
  | cons name rest ih =>
      simp only [firstRepeat] at absent
      split at absent
      · simp at absent
      · rename_i fresh
        obtain ⟨distinct, apart⟩ := ih _ _ absent
        refine ⟨List.nodup_cons.mpr ⟨fun member => ?_, distinct⟩, ?_⟩
        · exact apart name member (by simp)
        · intro other member
          rcases List.mem_cons.mp member with same | later
          · exact same ▸ fresh
          · exact fun seenBefore => apart other later (by simp [seenBefore])

def ofNames (names : List String) : Except TableError OperationTable :=
  match noRepeat : firstRepeat [] 1 names with
  | some (line, name) => .error (.duplicate line name)
  | none =>
      match start : names.head? with
      | none => .error .empty
      | some found =>
          if isDefault : found = "default" then
            if small : names.length ≤ 255 then
              .ok ⟨names, (firstRepeat_none names [] 1 noRepeat).1, isDefault ▸ start, small⟩
            else .error (.tooLarge names.length)
          else .error (.missingDefault found)

/-- The name on a line of a table: without its comment, the blanks around it, commas behind it and
then quotes around it. -/
def cleanLine (line : List Char) : List Char :=
  trimBoth (· == '"') (trimEnd (· == ',') (trimBoth isBlank (upTo ';' line)))

def declaredNames (text : String) : List String :=
  (((linesOf text.toList).map cleanLine).filter fun name => !name.isEmpty).map String.ofList

def parse (text : String) : Except TableError OperationTable := ofNames (declaredNames text)

def size (table : OperationTable) : Nat := table.names.length

def name? (table : OperationTable) (slot : Nat) : Option String := table.names[slot]?

def slot? (table : OperationTable) (name : String) : Option Nat := table.names.idxOf? name

/-- The slot of a name, which may leave out the star at its end. -/
def resolve (table : OperationTable) (name : String) : Option Nat :=
  (table.slot? name).or (table.slot? (name ++ "*"))

def beforeStar? (name : List Char) : Option (List Char) :=
  if name.getLast? = some '*' then some name.dropLast else none

/-- Does a name with a star at its end cover the other name, which continues it with a hyphen? -/
def nameCovers (ruleName name : List Char) : Bool :=
  match beforeStar? ruleName with
  | none => false
  | some stem =>
      match afterStart? stem name with
      | some rest => rest.head? == some '-'
      | none => false

/-- Does a rule for the one slot apply to the other? -/
def covers (table : OperationTable) (ruleSlot slot : Nat) : Bool :=
  if ruleSlot = slot ∨ ruleSlot = 0 then true
  else
    match table.name? ruleSlot, table.name? slot with
    | some ruleName, some name => nameCovers ruleName.toList name.toList
    | _, _ => false

end OperationTable

end SandboxPolicy
