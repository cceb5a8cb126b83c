import SandboxPolicy.Compiler
import SandboxPolicy.Json.Number

/-!
Settings: what holds where the command line does not say otherwise. They are read from a JSON
object with three members, each of which may be left out, or from an array of their values.
-/

namespace SandboxPolicy

structure Settings where
  backend : Backend
  operations : Option String
  parameters : Bindings
deriving Repr, DecidableEq, Inhabited

def Settings.standard : Settings := ⟨.builtin, none, .empty⟩

namespace ReadJson

def textOf (expected : String) : ReadJson String := do
  match ← peekSolid with
  | none => failAhead .endInValue
  | some '"' => do
      skip 1
      text
  | some _ => wrongType expected

def backendName : ReadJson Backend := do
  let name ← textOf "variant identifier"
  match Backend.ofName? name with
  | some backend => return backend
  | none => failHere (.unknownVariant name ["builtin", "native"])

def colon : ReadJson Unit := do
  match ← peekSolid with
  | some ':' => skip 1
  | some _ => failAhead .expectedColon
  | none => failAhead .endInObject

def null : ReadJson Unit := do
  match ← peekSolid with
  | none => failAhead .endInValue
  | some 'n' => do
      skip 1
      word ['u', 'l', 'l']
  | some _ => wrongType "unit"

/-- Reads a backend: its name, or an object whose only member has that name and is null. -/
def backend : ReadJson Backend := do
  match ← peekSolid with
  | some '"' => backendName
  | some '\x7b' => do
      skip 1
      match ← peekSolid with
      | some '"' => pure ()
      | some '\x7d' => failAhead .expectedValue
      | some _ => failAhead .keyNotText
      | none => failAhead .endInObject
      let backend ← backendName
      colon
      null
      match ← peekSolid with
      | some '\x7d' => do
          skip 1
          return backend
      | some _ => failHere .expectedValue
      | none => failHere .endInObject
  | some _ => failAhead .expectedValue
  | none => failAhead .endInValue

def optionalPath : ReadJson (Option String) := do
  match ← peekSolid with
  | some 'n' => do
      skip 1
      word ['u', 'l', 'l']
      return none
  | _ => return some (← textOf "path string")

def key? (first : Bool) : ReadJson (Option String) := do
  match ← peekSolid with
  | none => failAhead .endInObject
  | some '\x7d' => return none
  | some c => do
      if !first then
        if c = ',' then skip 1 else failAhead .expectedObjectEnd
      match ← peekSolid with
      | some '"' => do
          skip 1
          return some (← text)
      | some '\x7d' => if first then failAhead .keyNotText else failAhead .trailingComma
      | some _ => failAhead .keyNotText
      | none => failAhead .endInValue

def bindings (first : Bool) (found : Bindings) : Nat → ReadJson Bindings
  | 0 => failAhead .endInObject
  | steps + 1 => do
      match ← key? first with
      | none => do
          skip 1
          return found
      | some name => do
          colon
          let value ← textOf "a string"
          bindings false (found.insert name value) steps

def parameters : ReadJson Bindings := do
  match ← peekSolid with
  | none => failAhead .endInValue
  | some '\x7b' => do
      skip 1
      bindings true .empty ((← get).rest.length + 1)
  | some _ => wrongType "a map"

structure PartialSettings where
  backend : Option Backend
  operations : Option (Option String)
  parameters : Option Bindings

def PartialSettings.settings (found : PartialSettings) : Settings where
  backend := found.backend.getD .builtin
  operations := found.operations.getD none
  parameters := found.parameters.getD .empty

/-- A member that is there already is reported behind its key, or behind the end of the object if
that comes next. -/
def onlyOnce {α : Type} (name : String) (earlier : Option α) : ReadJson Unit := do
  if earlier.isSome then
    if (← peekSolid) = some '\x7d' then skip 1
    failHere (.duplicateField name)

def member (name : String) (found : PartialSettings) : ReadJson PartialSettings := do
  match name with
  | "backend" => do
      onlyOnce name found.backend
      colon
      return { found with backend := some (← backend) }
  | "operations" => do
      onlyOnce name found.operations
      colon
      return { found with operations := some (← optionalPath) }
  | "parameters" => do
      onlyOnce name found.parameters
      colon
      return { found with parameters := some (← parameters) }
  | _ => do
      colon
      skipAny
      return found

def members (first : Bool) (found : PartialSettings) : Nat → ReadJson PartialSettings
  | 0 => failAhead .endInObject
  | steps + 1 => do
      match ← key? first with
      | none => do
          skip 1
          return found
      | some name => do
          let found ← member name found
          members false found steps

def item? {α : Type} (first : Bool) (value : ReadJson α) : ReadJson (Option α) := do
  match ← peekSolid with
  | none => failAhead .endInList
  | some ']' => return none
  | some c => do
      if !first then
        if c = ',' then skip 1 else failAhead .expectedListEnd
      match ← peekSolid with
      | some ']' => if first then return none else failAhead .trailingComma
      | some _ => return some (← value)
      | none => failAhead .endInValue

def listEnd : ReadJson Unit := do
  match ← peekSolid with
  | some ']' => skip 1
  | some ',' => do
      skip 1
      if (← peekSolid) = some ']' then failAhead .trailingComma else failAhead .trailingCharacters
  | some _ => failAhead .trailingCharacters
  | none => failAhead .endInList

def items : ReadJson PartialSettings := do
  let backend ← item? true backend
  let operations ← item? backend.isNone optionalPath
  let parameters ← item? operations.isNone parameters
  listEnd
  return ⟨backend, operations, parameters⟩

def settings : ReadJson Settings := do
  let found ← match ← peekSolid with
    | none => failAhead .endInValue
    | some '[' => do
        skip 1
        items
    | some '\x7b' => do
        skip 1
        members true ⟨none, none, none⟩ ((← get).rest.length + 1)
    | some _ => wrongType "struct SandtoolSettings"
  match ← peekSolid with
  | none => return found.settings
  | some _ => failAhead .trailingCharacters

end ReadJson

def Settings.ofBytes (bytes : List UInt8) : Except JsonError Settings :=
  match ReadJson.settings.run (.ofBytes bytes) with
  | .ok settings _ => .ok settings
  | .error error _ => .error error

end SandboxPolicy
