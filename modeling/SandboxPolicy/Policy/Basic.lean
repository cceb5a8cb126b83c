import SandboxPolicy.SExpr.Basic
import SandboxPolicy.Text.Split

/-!
Policies: a version and rules in source order, each with an action, the operations it names and
the filter that guards it. The printed form of a rule is a form of a policy source.
-/

namespace SandboxPolicy

inductive Action where
  | allow
  | deny
deriving Repr, DecidableEq, Inhabited

namespace Action

def name : Action → String
  | .allow => "allow"
  | .deny => "deny"

def ofName? (name : String) : Option Action :=
  if name = "allow" then some .allow else if name = "deny" then some .deny else none

def code : Action → UInt16
  | .allow => 0
  | .deny => 1

def ofCode? (code : UInt16) : Option Action :=
  if code = 0 then some .allow else if code = 1 then some .deny else none

def unknown (name : String) : String := "unknown action: " ++ quoted name

end Action

structure Modifiers where
  report : Bool
  noLog : Bool
deriving Repr, DecidableEq, Inhabited

namespace Modifiers

def none : Modifiers := ⟨false, false⟩

def ofKeyword? (name : String) : Option Modifiers :=
  if name = "report" then some ⟨true, false⟩
  else if name = "no-log" then some ⟨false, true⟩
  else Option.none

def union (left right : Modifiers) : Modifiers :=
  ⟨left.report || right.report, left.noLog || right.noLog⟩

def isEmpty (modifiers : Modifiers) : Bool := !modifiers.report && !modifiers.noLog

def bits (modifiers : Modifiers) : UInt16 :=
  (if modifiers.report then 1 else 0) + (if modifiers.noLog then 2 else 0)

/-- The modifiers of the bits, of which the others are ignored. -/
def ofBits (bits : UInt16) : Modifiers := ⟨bits &&& 1 != 0, bits &&& 2 != 0⟩

def names (modifiers : Modifiers) : List String :=
  (if modifiers.report then ["report"] else []) ++ (if modifiers.noLog then ["no-log"] else [])

def render (modifiers : Modifiers) : String := ",".intercalate modifiers.names

end Modifiers

structure Verdict where
  action : Action
  modifiers : Modifiers
deriving Repr, DecidableEq, Inhabited

namespace Verdict

def denial : Verdict := ⟨.deny, .none⟩

def render (verdict : Verdict) : String :=
  if verdict.modifiers.isEmpty then verdict.action.name
  else verdict.action.name ++ " (with " ++ verdict.modifiers.render ++ ")"

end Verdict

/-- The argument of a filter, by how it is matched. -/
inductive Argument where
  | path (value : String)
  | regex (value : String)
  | name (value : String)
  | keyword (value : String)
  | address (value : String)
  | entitlement (value : String)
deriving Repr, DecidableEq, Inhabited

namespace Argument

def value : Argument → String
  | .path value | .regex value | .name value | .keyword value | .address value
  | .entitlement value => value

def render : Argument → String
  | .regex value => "#\"" ++ value ++ "\""
  | .keyword value => value
  | .address value => "ip " ++ quoted value
  | .path value | .name value | .entitlement value => quoted value

end Argument

/-- A condition on requests: one test, or all, any or the opposite of other conditions. -/
inductive Filter where
  | leaf (name : String) (argument : Argument)
  | all (items : List Filter)
  | any (items : List Filter)
  | not (item : Filter)
deriving Repr, Inhabited

namespace Filter

mutual

def leaves : Filter → List (String × Argument)
  | .leaf name argument => [(name, argument)]
  | .all items | .any items => leavesOf items
  | .not item => item.leaves

def leavesOf : List Filter → List (String × Argument)
  | [] => []
  | item :: rest => item.leaves ++ leavesOf rest

end

mutual

def render : Filter → String
  | .leaf name argument => "(" ++ name ++ " " ++ argument.render ++ ")"
  | .all items => "(require-all" ++ renderItems items ++ ")"
  | .any items => "(require-any" ++ renderItems items ++ ")"
  | .not item => "(require-not " ++ item.render ++ ")"

def renderItems : List Filter → String
  | [] => ""
  | item :: rest => " " ++ item.render ++ renderItems rest

end

end Filter

structure Rule where
  action : Action
  operations : List String
  filter : Option Filter
  modifiers : Modifiers
  span : Span
deriving Repr, Inhabited

def Rule.verdict (rule : Rule) : Verdict := ⟨rule.action, rule.modifiers⟩

def Rule.render (rule : Rule) : String :=
  "(" ++ rule.action.name ++ " " ++ " ".intercalate rule.operations ++
    (match rule.filter with
      | some filter => " " ++ filter.render
      | none => "") ++
    (if rule.modifiers.isEmpty then ""
      else " (with " ++ " ".intercalate rule.modifiers.names ++ ")") ++
    ")"

structure Policy where
  version : UInt32
  versionSpan : Span
  rules : List Rule
deriving Repr, Inhabited

/-- The variable that a path begins with, written between a dollar sign with a brace and the next
closing brace. -/
def patternVariable? (path : List Char) : Option (List Char) :=
  (afterStart? ['$', '\x7b'] path).bind fun rest =>
    (splitFirst? '\x7d' rest).map Prod.fst

/-- A list without repetitions, in the order of first use. -/
def firstUses : List String → List String
  | [] => []
  | name :: rest => name :: (firstUses rest).filter (· ≠ name)

namespace Policy

def leaves (policy : Policy) : List (String × Argument) :=
  policy.rules.flatMap fun rule => (rule.filter.map Filter.leaves).getD []

def patternVariables (policy : Policy) : List String :=
  firstUses (policy.leaves.filterMap fun leaf =>
    match leaf.2 with
    | .path path => (patternVariable? path.toList).map String.ofList
    | _ => none)

def entitlements (policy : Policy) : List String :=
  firstUses (policy.leaves.filterMap fun leaf =>
    match leaf.2 with
    | .entitlement key => some key
    | _ => none)

end Policy

end SandboxPolicy
