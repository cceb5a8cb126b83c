import SandboxPolicy.Compiler
import SandboxPolicy.Text.Numeral

/-!
The arguments of the program: a command, its options and its files. An option that takes a value
finds it behind an equals sign or in the next argument, which may not look like an option.
-/

namespace SandboxPolicy

structure CompileOptions where
  file : String
  output : Option String
  parameters : List (String × String)
  backend : Option Backend
  hex : Bool
  operations : Option String
deriving Repr, DecidableEq, Inhabited

structure ValidateOptions where
  file : String
  json : Bool
  parameters : List (String × String)
  operations : Option String
deriving Repr, DecidableEq, Inhabited

structure InspectOptions where
  file : String
  json : Bool
  operations : Option String
deriving Repr, DecidableEq, Inhabited

structure CheckOptions where
  file : String
  operation : String
  argument : Option String
  entitlements : List String
  profile : String
  parameters : List (String × String)
  json : Bool
  operations : Option String
deriving Repr, DecidableEq, Inhabited

inductive Command where
  | compile (options : CompileOptions)
  | validate (options : ValidateOptions)
  | inspect (options : InspectOptions)
  | hex (file : String) (width : Nat)
  | check (options : CheckOptions)
  | operations (json : Bool) (table : Option String)
deriving Repr, DecidableEq, Inhabited

inductive UsageError where
  | noCommand
  | unknownCommand (name : String)
  | unexpected (argument : String)
  | repeated (option : String)
  | noValue (option : String)
  | invalidValue (option value : String)
  | missing (what : String)
deriving Repr, DecidableEq, Inhabited

def UsageError.message : UsageError → String
  | .noCommand => "a command is required"
  | .unknownCommand name => "unrecognized command '" ++ name ++ "'"
  | .unexpected argument => "unexpected argument '" ++ argument ++ "'"
  | .repeated option => "'--" ++ option ++ "' cannot be used multiple times"
  | .noValue option => "a value is required for '--" ++ option ++ "'"
  | .invalidValue option value => "invalid value '" ++ value ++ "' for '" ++ option ++ "'"
  | .missing what => what ++ " is required"

inductive Invocation where
  | run (verbose : Bool) (command : Command)
  | help
  | version
deriving Repr, DecidableEq, Inhabited

inductive OptionKind where
  | flag
  | help
  | version
  | once (accepts : String → Bool)
  | many (accepts : String → Bool)

structure OptionSpec where
  long : String
  short : Option Char
  kind : OptionKind

structure Found where
  flags : List String
  values : List (String × String)
  files : List String
deriving Repr, DecidableEq, Inhabited

namespace Found

def nothing : Found := ⟨[], [], []⟩

def hasFlag (found : Found) (name : String) : Bool := found.flags.contains name

def all (found : Found) (name : String) : List String :=
  (found.values.filter fun entry => entry.1 = name).map Prod.snd

def value? (found : Found) (name : String) : Option String := (found.all name).head?

end Found

inductive Halt where
  | usage (error : UsageError)
  | help
  | version
deriving Repr, DecidableEq, Inhabited

namespace Arguments

def refuse {α : Type} (error : UsageError) : Except Halt α := .error (.usage error)

def addValue (spec : OptionSpec) (value : String) (found : Found) : Except Halt Found :=
  let noted : Found := { found with values := found.values ++ [(spec.long, value)] }
  match spec.kind with
  | .many accepts =>
      if accepts value then .ok noted else refuse (.invalidValue spec.long value)
  | .once accepts =>
      if (found.value? spec.long).isSome then refuse (.repeated spec.long)
      else if accepts value then .ok noted
      else refuse (.invalidValue spec.long value)
  | _ => refuse (.unexpected value)

def addFlag (spec : OptionSpec) (found : Found) : Except Halt Found :=
  match spec.kind with
  | .help => .error .help
  | .version => .error .version
  | _ =>
      if found.hasFlag spec.long then refuse (.repeated spec.long)
      else .ok { found with flags := found.flags ++ [spec.long] }

def takesValue (spec : OptionSpec) : Bool :=
  match spec.kind with
  | .once _ | .many _ => true
  | _ => false

def addFile (limit : Nat) (file : String) (found : Found) : Except Halt Found :=
  if limit ≤ found.files.length then refuse (.unexpected file)
  else if file.isEmpty then refuse (.invalidValue "file" file)
  else .ok { found with files := found.files ++ [file] }

/-- Reads a long option, given without its hyphens. The option is shown if its value is to
follow. -/
def readLong (specs : List OptionSpec) (text : List Char) (found : Found) :
    Except Halt (Option OptionSpec × Found) :=
  let (name, attached) := match splitFirst? '=' text with
    | none => (text, none)
    | some (name, value) => (name, some (String.ofList value))
  match specs.find? fun spec => spec.long.toList = name, attached with
  | none, _ => refuse (.unexpected (String.ofList ('-' :: '-' :: text)))
  | some spec, some value => do
      if takesValue spec then return (none, ← addValue spec value found)
      else refuse (.unexpected value)
  | some spec, none => do
      if takesValue spec then return (some spec, found) else return (none, ← addFlag spec found)

def readShort (specs : List OptionSpec) (found : Found) :
    List Char → Except Halt (Option OptionSpec × Found)
  | [] => .ok (none, found)
  | c :: rest =>
      match specs.find? fun spec => spec.short = some c with
      | none => refuse (.unexpected (String.ofList ['-', c]))
      | some spec =>
          if takesValue spec then
            match rest with
            | [] => .ok (some spec, found)
            | '=' :: value => do return (none, ← addValue spec (String.ofList value) found)
            | value => do return (none, ← addValue spec (String.ofList value) found)
          else do readShort specs (← addFlag spec found) rest

/-- Reads the arguments of a command. `pending` is an option that waits for its value. -/
def readAll (specs : List OptionSpec) (limit : Nat) (pending : Option OptionSpec) (found : Found) :
    List String → Except Halt Found
  | [] =>
      match pending with
      | some spec => refuse (.noValue spec.long)
      | none => .ok found
  | argument :: rest =>
      match argument.toList, pending with
      | '-' :: _ :: _, some spec => refuse (.noValue spec.long)
      | ['-', '-'], none => rest.foldlM (fun found file => addFile limit file found) found
      | '-' :: '-' :: name, none => do
          let (pending, found) ← readLong specs name found
          readAll specs limit pending found rest
      | '-' :: c :: cluster, none => do
          let (pending, found) ← readShort specs found (c :: cluster)
          readAll specs limit pending found rest
      | _, some spec => do
          let found ← addValue spec argument found
          readAll specs limit none found rest
      | _, none => do
          let found ← addFile limit argument found
          readAll specs limit none found rest

/-! ## The commands -/

def anyText : String → Bool := fun _ => true

def isPath : String → Bool := fun text => !text.isEmpty

def isAssignment : String → Bool := fun text => (readAssignment text).isSome

def isBackend : String → Bool := fun text => (Backend.ofName? text).isSome

def greatestNumber : Nat := 0xffffffffffffffff

def isNumber : String → Bool := fun text => (readNumber greatestNumber text).isSome

def verboseOption : OptionSpec := ⟨"verbose", some 'v', .flag⟩

def helpOption : OptionSpec := ⟨"help", some 'h', .help⟩

def versionOption : OptionSpec := ⟨"version", some 'V', .version⟩

def jsonOption : OptionSpec := ⟨"json", none, .flag⟩

def parameterOption : OptionSpec := ⟨"param", none, .many isAssignment⟩

def operationsOption : OptionSpec := ⟨"operations", none, .once isPath⟩

def optionsOf (command : String) : Option (List OptionSpec × Nat) :=
  match command with
  | "compile" =>
      some ([⟨"output", some 'o', .once isPath⟩, parameterOption,
        ⟨"backend", none, .once isBackend⟩, ⟨"hex", none, .flag⟩, operationsOption], 1)
  | "validate" => some ([jsonOption, parameterOption, operationsOption], 1)
  | "inspect" => some ([jsonOption, operationsOption], 1)
  | "hex" => some ([⟨"width", none, .once isNumber⟩], 1)
  | "check" =>
      some ([⟨"operation", none, .once anyText⟩, ⟨"argument", none, .once anyText⟩,
        ⟨"entitlement", none, .many anyText⟩, ⟨"profile", none, .once anyText⟩, parameterOption,
        jsonOption, operationsOption], 1)
  | "operations" => some ([jsonOption, operationsOption], 0)
  | _ => none

def file (found : Found) : Except Halt String :=
  match found.files with
  | [] => refuse (.missing "a file")
  | name :: _ => .ok name

def parameters (found : Found) : List (String × String) :=
  (found.all "param").filterMap readAssignment

def commandOf (name : String) (found : Found) : Except Halt Command := do
  let operations := found.value? "operations"
  let json := found.hasFlag "json"
  match name with
  | "compile" =>
      return .compile
        { file := ← file found, output := found.value? "output", parameters := parameters found,
          backend := (found.value? "backend").bind Backend.ofName?, hex := found.hasFlag "hex",
          operations }
  | "validate" =>
      return .validate { file := ← file found, json, parameters := parameters found, operations }
  | "inspect" => return .inspect { file := ← file found, json, operations }
  | "hex" =>
      let width := (found.value? "width").bind (readNumber greatestNumber)
      return .hex (← file found) (width.getD 16)
  | "check" =>
      let file ← file found
      match found.value? "operation" with
      | none => refuse (.missing "--operation")
      | some operation =>
          return .check
            { file, operation, argument := found.value? "argument",
              entitlements := found.all "entitlement",
              profile := (found.value? "profile").getD "0", parameters := parameters found, json,
              operations }
  | _ => return .operations json operations

def readCommand (verbose : Bool) (name : String) (rest : List String) :
    Except Halt (Bool × Command) := do
  match optionsOf name with
  | none => refuse (.unknownCommand name)
  | some (specs, limit) =>
      let found ← readAll (specs ++ [verboseOption, helpOption]) limit none .nothing rest
      return (verbose || found.hasFlag "verbose", ← commandOf name found)

def isName (argument : String) : Bool :=
  match argument.toList with
  | '-' :: _ :: _ => false
  | _ => true

def read (arguments : List String) : Except Halt (Bool × Command) := do
  let before := arguments.takeWhile fun argument => !isName argument
  let found ← readAll [verboseOption, helpOption, versionOption] 0 none .nothing before
  match arguments.dropWhile fun argument => !isName argument with
  | [] => refuse .noCommand
  | name :: rest =>
      if before.contains "--" then refuse (.unexpected name)
      else if name = "help" then
        match rest with
        | [] => .error .help
        | topic :: subtopics =>
            if topic ≠ "help" && (optionsOf topic).isNone then refuse (.unknownCommand topic)
            else
              match subtopics with
              | [] => .error .help
              | subtopic :: _ => refuse (.unknownCommand subtopic)
      else readCommand (found.hasFlag "verbose") name rest

end Arguments

def Invocation.read (arguments : List String) : Except UsageError Invocation :=
  match Arguments.read arguments with
  | .ok (verbose, command) => .ok (.run verbose command)
  | .error .help => .ok .help
  | .error .version => .ok .version
  | .error (.usage error) => .error error

end SandboxPolicy
