import SandboxPolicy.Catalogue
import SandboxPolicy.Policy.Basic
import SandboxPolicy.Regex.Compile
import SandboxPolicy.SExpr.Reader

/-!
What can be wrong with a policy, from its characters to the arguments of its filters, with the
wording of each complaint and advice on mending it.
-/

namespace SandboxPolicy

inductive FormFault where
  | notAForm
  | noFormName
  | duplicateVersion
  | badVersionNumber (text : String)
  | badVersion
  | unknownForm (name : String)
  | operationAfterFilter
  | emptyModifiers
  | unknownModifier (printed : String)
  | strayString
  | noOperation (action : Action)
  | notAFilter
  | noItems (head : String)
  | notOneItem
  | badParameter
  | notAText (filter : String)
deriving Repr, DecidableEq

def FormFault.message : FormFault → String
  | .notAForm => "expected a top-level form like (version 1) or (allow ...)"
  | .noFormName => "expected a form name such as allow or deny"
  | .duplicateVersion => "duplicate (version ...) form"
  | .badVersionNumber text => "expected a version number, got '" ++ text ++ "'"
  | .badVersion => "expected (version N)"
  | .unknownForm name =>
      "unknown top-level form '" ++ name ++ "'; expected version, allow or deny"
  | .operationAfterFilter => "operations must come before filters"
  | .emptyModifiers => "expected (with report) or (with no-log)"
  | .unknownModifier printed =>
      "unsupported modifier '" ++ printed ++ "'; expected report or no-log"
  | .strayString => "unexpected string; arguments belong inside a filter like (literal \"...\")"
  | .noOperation action => "(" ++ action.name ++ " ...) names no operation"
  | .notAFilter => "expected a filter like (subpath \"/usr\")"
  | .noItems head => "(" ++ head ++ ") needs at least one filter"
  | .notOneItem => "(require-not ...) takes exactly one filter"
  | .badParameter => "expected (param \"NAME\")"
  | .notAText filter =>
      "expected a string, (param ...) or (string-append ...) in (" ++ filter ++ " ...)"

inductive ArgumentFault where
  | missing
  | notProtocolAndAddress
  | notASymbol (printed : String)
  | notAString (printed : String)
  | unknownFilter (name : String)
  | relativePath (path : String)
  | emptyName
  | unknownValue (value : String)
  | noPort (address : String)
  | emptyHost (address : String)
  | badPort (port : String)
  | wrongKind (expected : ArgumentKind) (given : Argument)
  | regex (error : RegexError)
deriving Repr, DecidableEq

def ArgumentFault.message : ArgumentFault → String
  | .missing => "missing argument"
  | .notProtocolAndAddress => "expected a protocol (ip, tcp, udp) and an address"
  | .notASymbol printed => "expected a symbol, got " ++ printed
  | .notAString printed => "expected a quoted string, got " ++ printed
  | .unknownFilter name => "unknown filter '" ++ name ++ "'"
  | .relativePath path =>
      "path '" ++ path ++ "' must be absolute or start with a $\x7bVARIABLE\x7d"
  | .emptyName => "name must not be empty"
  | .unknownValue value => "unknown value '" ++ value ++ "'"
  | .noPort address => "address '" ++ address ++ "' must look like host:port"
  | .emptyHost address => "address '" ++ address ++ "' has an empty host"
  | .badPort port => "port '" ++ port ++ "' must be '*' or a number"
  | .wrongKind expected given =>
      "expected a " ++ expected.render ++ " argument, got " ++ given.render
  | .regex error => error.message

/-- A complaint about a policy, with its place unless it concerns the whole. -/
inductive PolicyError where
  | unreadable (error : SyntaxError)
  | invalidForm (fault : FormFault) (position : Position)
  | unsupportedVersion (version : UInt32) (position : Position)
  | unsupportedForm (form : String) (position : Position)
  | missingVersion
  | unknownOperation (name : String) (suggestion : Option String) (position : Position)
  | unknownFilter (name : String) (suggestion : Option String) (position : Position)
  | invalidArgument (filter : String) (fault : ArgumentFault) (position : Position)
  | invalidRegex (pattern : String) (fault : ArgumentFault) (position : Position)
  | missingParameter (name : String) (position : Position)
deriving Repr, DecidableEq

namespace PolicyError

def suggestionText : Option String → String
  | some name => "; did you mean '" ++ name ++ "'?"
  | none => ""

def message : PolicyError → String
  | .unreadable error => "syntax error at " ++ error.render
  | .invalidForm fault position => position.render ++ ": " ++ fault.message
  | .unsupportedVersion version position =>
      position.render ++ ": unsupported version " ++ toString version.toNat
  | .unsupportedForm form position =>
      position.render ++ ": (" ++ form ++ " ...) is not supported"
  | .missingVersion => "missing (version N) form"
  | .unknownOperation name suggestion position =>
      position.render ++ ": unknown operation '" ++ name ++ "'" ++ suggestionText suggestion
  | .unknownFilter name suggestion position =>
      position.render ++ ": unknown filter '" ++ name ++ "'" ++ suggestionText suggestion
  | .invalidArgument filter fault position =>
      position.render ++ ": invalid argument for '" ++ filter ++ "': " ++ fault.message
  | .invalidRegex pattern fault position =>
      position.render ++ ": invalid regex '" ++ pattern ++ "': " ++ fault.message
  | .missingParameter name position =>
      position.render ++ ": parameter '" ++ name ++ "' is not defined"

def argumentHelp (filter : String) : ArgumentKind → Option String
  | .path =>
      some ("(" ++ filter ++ " \"/absolute/path\") or (" ++ filter ++ " (param \"NAME\"))")
  | .keyword values => some ("expected one of: " ++ ", ".intercalate values)
  | .address => some ("(" ++ filter ++ " ip \"localhost:*\")")
  | .regex | .name | .entitlement => none

def help : PolicyError → Option String
  | .missingVersion => some "start the profile with (version 1)"
  | .unsupportedVersion _ _ => some "supported versions are 1, 2 and 3"
  | .unknownOperation _ _ _ =>
      some "run `sandtool operations` to list the operations of the active table"
  | .unknownFilter _ _ _ => some ("known filters: " ++ ", ".intercalate Catalogue.names)
  | .invalidArgument filter _ _ =>
      (Catalogue.byName? filter).bind fun known => argumentHelp filter known.kind
  | .missingParameter name _ => some ("pass it with --param " ++ name ++ "=VALUE")
  | .unsupportedForm form _ =>
      if form = "define" then
        some "user-defined procedures are not supported; inline the filters instead"
      else if form = "import" then some "inline the imported profile instead"
      else none
  | .unreadable _ | .invalidForm _ _ | .invalidRegex _ _ _ => none

end PolicyError

end SandboxPolicy
