import SandboxPolicy.Bindings
import SandboxPolicy.Policy.Error
import SandboxPolicy.Text.EditDistance
import SandboxPolicy.Text.Numeral

/-!
From expressions to a policy. References to parameters are resolved on the way, so that a policy
holds only texts.
-/

namespace SandboxPolicy

structure PolicySource where
  text : String
  parameters : Bindings

namespace PolicySource

variable (source : PolicySource)

def position (span : Span) : Position := positionAt source.text span.start

def formError {α : Type} (span : Span) (fault : FormFault) : Except PolicyError α :=
  .error (.invalidForm fault (source.position span))

def argumentError {α : Type} (filter : String) (span : Span) (fault : ArgumentFault) :
    Except PolicyError α :=
  .error (.invalidArgument filter fault (source.position span))

/-- The value of the parameter that a list refers to; `arguments` are the items after its head. -/
def parameterValue (arguments : List SExpr) (span : Span) : Except PolicyError String :=
  match arguments with
  | [.str key _] =>
      match source.parameters.get? key with
      | some value => .ok value
      | none => .error (.missingParameter key (source.position span))
  | _ => source.formError span .badParameter

mutual

/-- The text that an expression denotes: a string, a parameter or several of these in a row. -/
def textValue (filter : String) : SExpr → Except PolicyError String
  | .str text _ => .ok text
  | .list (.atom head _ :: rest) span =>
      if head = "param" then source.parameterValue rest span
      else if head = "string-append" then do return String.join (← textValues filter rest)
      else source.formError span (.notAText filter)
  | .list _ span => source.formError span (.notAText filter)
  | .atom text span =>
      source.argumentError filter span (.notAString (SExpr.atom text span).render)
  | .regex text span =>
      source.argumentError filter span (.notAString (SExpr.regex text span).render)

def textValues (filter : String) : List SExpr → Except PolicyError (List String)
  | [] => .ok []
  | expr :: rest => do
      let text ← textValue filter expr
      return text :: (← textValues filter rest)

end

def keywordArgument (filter : String) : SExpr → Except PolicyError Argument
  | .atom text _ | .str text _ => .ok (.keyword text)
  | other => source.argumentError filter other.span (.notASymbol other.render)

def regexArgument (filter : String) : SExpr → Except PolicyError Argument
  | .regex text _ => .ok (.regex text)
  | other => do return .regex (← source.textValue filter other)

def addressArgument (filter : String) (span : Span) : List SExpr → Except PolicyError Argument
  | [.atom protocol _, address] =>
      if protocol = "ip" ∨ protocol = "tcp" ∨ protocol = "udp" then do
        return .address (← source.textValue filter address)
      else source.argumentError filter span .notProtocolAndAddress
  | _ => source.argumentError filter span .notProtocolAndAddress

def arguments (filter : String) (kind : ArgumentKind) (span : Span) (items : List SExpr) :
    Except PolicyError (List Argument) :=
  match kind with
  | .address => do return [← source.addressArgument filter span items]
  | .keyword _ => items.mapM (source.keywordArgument filter)
  | .regex => items.mapM (source.regexArgument filter)
  | .path => items.mapM fun item => do return .path (← source.textValue filter item)
  | .name => items.mapM fun item => do return .name (← source.textValue filter item)
  | .entitlement => items.mapM fun item => do return .entitlement (← source.textValue filter item)

/-- Several tests of one filter mean any of them. -/
def anyOf : List Filter → Filter
  | [single] => single
  | several => .any several

def leaf (name : String) (nameSpan span : Span) (items : List SExpr) : Except PolicyError Filter :=
  match Catalogue.byName? name with
  | none => .error (.unknownFilter name (closest name Catalogue.names) (source.position nameSpan))
  | some known =>
      if items.isEmpty then source.argumentError known.name span .missing
      else do
        let arguments ← source.arguments known.name known.kind span items
        return anyOf (arguments.map (Filter.leaf known.name))

mutual

def filter : SExpr → Except PolicyError Filter
  | .list (.atom head headSpan :: items) span =>
      if head = "require-all" ∨ head = "require-any" then
        if items.isEmpty then source.formError span (.noItems head)
        else do
          let filters ← filters items
          return if head = "require-all" then .all filters else .any filters
      else if head = "require-not" then
        match items with
        | [item] => do return .not (← filter item)
        | _ => source.formError span .notOneItem
      else source.leaf head headSpan span items
  | other => source.formError other.span .notAFilter

def filters : List SExpr → Except PolicyError (List Filter)
  | [] => .ok []
  | item :: rest => do
      let first ← filter item
      return first :: (← filters rest)

end

def modifiersFrom : List SExpr → Except PolicyError Modifiers
  | [] => .ok .none
  | item :: rest =>
      match item.text?.bind Modifiers.ofKeyword? with
      | none => source.formError item.span (.unknownModifier item.render)
      | some modifier => do return modifier.union (← modifiersFrom rest)

/-- What the items of a rule have given so far; names and filters are kept in reverse. -/
structure RuleParts where
  operations : List String
  filters : List Filter
  modifiers : Modifiers

def addItem (parts : RuleParts) (item : SExpr) : Except PolicyError RuleParts :=
  match item with
  | .atom name span =>
      if parts.filters.isEmpty then .ok { parts with operations := name :: parts.operations }
      else source.formError span .operationAfterFilter
  | .list items span =>
      if item.head? = some "with" then
        if items.length < 2 then source.formError span .emptyModifiers
        else do
          let modifiers ← source.modifiersFrom items.tail
          return { parts with modifiers := parts.modifiers.union modifiers }
      else do
        let filter ← source.filter item
        return { parts with filters := filter :: parts.filters }
  | .str _ span | .regex _ span => source.formError span .strayString

/-- Several filters of one rule mean all of them. -/
def allOf : List Filter → Option Filter
  | [] => none
  | [single] => some single
  | several => some (.all several)

def rule (action : Action) (items : List SExpr) (span : Span) : Except PolicyError Rule := do
  let parts ← items.foldlM source.addItem ⟨[], [], .none⟩
  if parts.operations.isEmpty then source.formError span (.noOperation action)
  else
    return ⟨action, parts.operations.reverse, allOf parts.filters.reverse, parts.modifiers, span⟩

def version (span : Span) : List SExpr → Except PolicyError UInt32
  | [.atom text textSpan] =>
      match readNumber 0xffffffff text with
      | some number => .ok (UInt32.ofNat number)
      | none => source.formError textSpan (.badVersionNumber text)
  | _ => source.formError span .badVersion

structure PolicyParts where
  version : Option (UInt32 × Span)
  rules : List Rule

def addForm (parts : PolicyParts) (form : SExpr) : Except PolicyError PolicyParts :=
  match form with
  | .list (.atom head headSpan :: items) span =>
      if head = "version" then
        if parts.version.isSome then source.formError span .duplicateVersion
        else do
          let version ← source.version span items
          return { parts with version := some (version, span) }
      else
        match Action.ofName? head with
        | some action => do
            let rule ← source.rule action items span
            return { parts with rules := rule :: parts.rules }
        | none =>
            if head = "debug" then .ok parts
            else if head = "define" ∨ head = "import" then
              .error (.unsupportedForm head (source.position span))
            else source.formError headSpan (.unknownForm head)
  | .list _ span => source.formError span .noFormName
  | other => source.formError other.span .notAForm

def policy (forms : List SExpr) : Except PolicyError Policy := do
  let parts ← forms.foldlM source.addForm ⟨none, []⟩
  match parts.version with
  | some (version, span) => return ⟨version, span, parts.rules.reverse⟩
  | none => .error .missingVersion

end PolicySource

/-- Reads a policy from its source. -/
def Policy.parse (text : String) (parameters : Bindings) : Except PolicyError Policy :=
  match SExpr.parse text with
  | .error error => .error (.unreadable error)
  | .ok forms => PolicySource.policy ⟨text, parameters⟩ forms

end SandboxPolicy
