import SandboxPolicy.Json.Basic
import SandboxPolicy.Policy.Basic

/-!
The JSON form of a policy. Modifiers and spans are no part of it; reading it back leaves them
empty. A filter is an object with one member named for its form, and a leaf tells the kind of its
argument.
-/

namespace SandboxPolicy

namespace Argument

def kindName : Argument → String
  | .path _ => "path"
  | .regex _ => "regex"
  | .name _ => "name"
  | .keyword _ => "keyword"
  | .address _ => "address"
  | .entitlement _ => "entitlement"

def toJson (argument : Argument) : Json :=
  .object [("kind", .str argument.kindName), ("value", .str argument.value)]

def ofKind? (kind value : String) : Option Argument :=
  if kind = "path" then some (.path value)
  else if kind = "regex" then some (.regex value)
  else if kind = "name" then some (.name value)
  else if kind = "keyword" then some (.keyword value)
  else if kind = "address" then some (.address value)
  else if kind = "entitlement" then some (.entitlement value)
  else none

def ofJson? (json : Json) : Option Argument :=
  match json.fields? ["kind", "value"] with
  | some [some (.str kind), some (.str value)] => ofKind? kind value
  | _ => none

end Argument

namespace Filter

mutual

def toJson : Filter → Json
  | .leaf name argument =>
      .object [("leaf", .object [("name", .str name), ("argument", argument.toJson)])]
  | .all items => .object [("all", .array (toJsonItems items))]
  | .any items => .object [("any", .array (toJsonItems items))]
  | .not item => .object [("not", item.toJson)]

def toJsonItems : List Filter → List Json
  | [] => []
  | item :: rest => item.toJson :: toJsonItems rest

end

def leafOfJson? (body : Json) : Option Filter :=
  match body.fields? ["name", "argument"] with
  | some [some (.str name), some argument] => (Argument.ofJson? argument).map (.leaf name)
  | _ => none

mutual

def ofJson? : Json → Option Filter
  | .object [(form, .array items)] =>
      if form = "all" then (ofJsonItems? items).map .all
      else if form = "any" then (ofJsonItems? items).map .any
      else if form = "leaf" then leafOfJson? (.array items)
      else none
  | .object [(form, body)] =>
      if form = "not" then (ofJson? body).map .not
      else if form = "leaf" then leafOfJson? body
      else none
  | _ => none

def ofJsonItems? : List Json → Option (List Filter)
  | [] => some []
  | item :: rest =>
      match ofJson? item, ofJsonItems? rest with
      | some first, some others => some (first :: others)
      | _, _ => none

end

end Filter

def textsOfJson? : Json → Option (List String)
  | .array items => items.mapM fun item =>
      match item with
      | .str text => some text
      | _ => none
  | _ => none

namespace Rule

def toJson (rule : Rule) : Json :=
  .object [("action", .str rule.action.name), ("operations", .strings rule.operations),
    ("filter", .ofOption Filter.toJson rule.filter)]

def filterOfJson? : Option Json → Option (Option Filter)
  | none | some .null => some none
  | some json => (Filter.ofJson? json).map some

def ofJson? (json : Json) : Option Rule := do
  let [some action, some operations, filter] ← json.fields? ["action", "operations", "filter"]
    | none
  let action ← (← action.constant?) |> Action.ofName?
  let operations ← textsOfJson? operations
  let filter ← filterOfJson? filter
  return ⟨action, operations, filter, .none, .zero⟩

end Rule

namespace Policy

def toJson (policy : Policy) : Json :=
  .object
    [("version", .ofNat policy.version.toNat), ("rules", .array (policy.rules.map Rule.toJson))]

def versionOfJson? : Json → Option UInt32
  | .number (.ofNat value) => if value < 0x100000000 then some (UInt32.ofNat value) else none
  | _ => none

def ofJson? (json : Json) : Option Policy := do
  let [some version, some (.array items)] ← json.fields? ["version", "rules"] | none
  let version ← versionOfJson? version
  let rules ← items.mapM Rule.ofJson?
  return ⟨version, .zero, rules⟩

end Policy

end SandboxPolicy
