import SandboxPolicy.CommandLine.Check
import SandboxPolicy.CommandLine.Report
import SandboxPolicy.HexDump
import SandboxPolicy.OperationTable.Builtin

/-!
Running a command: what it reads, in which order, and what it leaves behind. Files are reached
through a host, so that a command can run on the files of a system or on those of a value.
-/

namespace SandboxPolicy

/-- How files and the standard input are reached. -/
structure Host (m : Type → Type) where
  read : String → m (Except FileError (List UInt8))
  readInput : m (List UInt8)
  write : String → List UInt8 → m (Except FileError Unit)
  settingsFile : Option String

structure Outcome where
  code : Nat
  output : String
  errors : String
deriving Repr, DecidableEq, Inhabited

structure Printed where
  output : String
  errors : String
  failure : Option Failure
deriving Repr, DecidableEq, Inhabited

namespace Session

variable {m : Type → Type} [Monad m]

abbrev Step (m : Type → Type) := ExceptT Failure m

def orFail {α : Type} (action : m (Except FileError α)) (message : String) : Step m α := do
  match ← (action : m (Except FileError α)) with
  | .ok result => return result
  | .error error => throw ((Failure.ofFile error).within message)

def contentOf (host : Host m) (file : String) : m (Except FileError (List UInt8)) :=
  if file.contains '\x00' then return .error .zeroInName else host.read file

def store (host : Host m) (file : String) (bytes : List UInt8) : m (Except FileError Unit) :=
  if file.contains '\x00' then return .error .zeroInName else host.write file bytes

/-- Does a name stand for the standard input? Slashes and dots behind the hyphen do not matter. -/
def isInput (file : String) : Bool :=
  match file.splitToList (· == '/') with
  | "-" :: rest => rest.all fun part => part = "" || part = "."
  | _ => false

def readBytes (host : Host m) (file : String) : Step m (List UInt8) := do
  if isInput file then host.readInput
  else orFail (contentOf host file) ("failed to read " ++ file)

def textFault (bytes : List UInt8) : String :=
  match utf8Fault? bytes with
  | some (index, some length) => s!"invalid utf-8 sequence of {length} bytes from index {index}"
  | some (index, none) => s!"incomplete utf-8 byte sequence from index {index}"
  | none => ""

def readSource (host : Host m) (file : String) : Step m String := do
  let bytes ← readBytes host file
  match utf8Text? bytes with
  | some source => return source
  | none => throw ((Failure.plain (textFault bytes)).within (file ++ " is not UTF-8 text"))

def notText : FileError := .other "stream did not contain valid UTF-8"

def loadSettings (host : Host m) : Step m Settings := do
  match host.settingsFile with
  | none => return .standard
  | some file =>
      match ← (contentOf host file : m _) with
      | .error .missing | .error .notDirectory => return .standard
      | .error error => throw ((Failure.ofFile error).within ("failed to read " ++ file))
      | .ok bytes =>
          if (utf8Text? bytes).isNone then
            throw ((Failure.ofFile notText).within ("failed to read " ++ file))
          match Settings.ofBytes bytes with
          | .ok settings => return settings
          | .error error =>
              throw ((Failure.plain error.message).within ("failed to parse " ++ file))

def readTable (host : Host m) (file : String) : Step m String := do
  let fail := fun error : FileError =>
    throw ((Failure.ofFile error).within
      ("failed to read operation table " ++ file ++ ": " ++ error.message))
  match ← (contentOf host file : m _) with
  | .error error => fail error
  | .ok bytes =>
      match utf8Text? bytes with
      | some text => return text
      | none => fail notText

/-- The operation table that the options name, or the settings, or the standard one. -/
def loadTable (host : Host m) (settings : Settings) (chosen : Option String) :
    Step m OperationTable := do
  match chosen.or settings.operations with
  | none => return .macos
  | some file =>
      let within := fun failure : Failure =>
        failure.within ("failed to load operation table " ++ file)
      let text ← (readTable host file).adapt within
      match OperationTable.parse text with
      | .ok table => return table
      | .error error => throw (within (.ofTable error))

def parametersOf (settings : Settings) (assignments : List (String × String)) : Bindings :=
  settings.parameters.merge (.ofList assignments)

def printed (output : String) : Printed := ⟨output, "", none⟩

/-! ## The commands -/

def kindPhrase : ProfileKind → String
  | .single => "single profile"
  | .collection => "collection"

def compileWith (backend : Backend) (table : OperationTable) (source : String)
    (parameters : Bindings) : Except CompileError CompiledProfile :=
  match backend.unavailable? with
  | some error => .error error
  | none => compile table source parameters

def runCompile (host : Host m) (options : CompileOptions) : Step m Printed := do
  let settings ← loadSettings host
  let source ← readSource host options.file
  let parameters := parametersOf settings options.parameters
  let backend := options.backend.getD settings.backend
  let table ← loadTable host settings options.operations
  match compileWith backend table source parameters with
  | .error error =>
      throw ((Failure.ofCompile error).within ("failed to compile " ++ options.file))
  | .ok profile =>
      let dump := HexDump.render profile.bytecode 16
      match options.output with
      | none => return printed dump
      | some file =>
          orFail (store host file profile.bytecode) ("failed to write " ++ file)
          let note := s!"wrote {file} ({profile.bytecode.length} bytes, " ++
            kindPhrase profile.kind ++ ")\n"
          return ⟨if options.hex then dump else "", note, none⟩

def runValidate (host : Host m) (options : ValidateOptions) : Step m Printed := do
  let settings ← loadSettings host
  let source ← readSource host options.file
  let table ← loadTable host settings options.operations
  let parameters := parametersOf settings options.parameters
  let report := PolicyReport.ofSource table parameters options.file source
  let output := if options.json then report.toJson.render ++ "\n" else report.render
  return ⟨output, "", report.failure?⟩

def runInspect (host : Host m) (options : InspectOptions) : Step m Printed := do
  let settings ← loadSettings host
  let table ← loadTable host settings options.operations
  let bytes ← readBytes host options.file
  match Dissection.ofBytes bytes table with
  | .error error =>
      throw ((Failure.ofBytecode error).within ("failed to dissect " ++ options.file))
  | .ok dissection =>
      return printed (if options.json then dissection.toJson.render ++ "\n" else dissection.render)

def runHex (host : Host m) (file : String) (width : Nat) : Step m Printed := do
  if width = 0 then throw (.plain "--width must be at least 1")
  return printed (HexDump.render (← readBytes host file) width)

def runCheck (host : Host m) (options : CheckOptions) (verbose : Bool) : Step m Printed := do
  let settings ← loadSettings host
  let bytes ← readBytes host options.file
  let parameters := parametersOf settings options.parameters
  let table ← loadTable host settings options.operations
  return printed (← liftExcept (checkRequest table parameters bytes options verbose))

def runOperations (host : Host m) (json : Bool) (chosen : Option String) : Step m Printed := do
  let settings ← loadSettings host
  let table ← loadTable host settings chosen
  return printed (if json then table.toJson.render ++ "\n" else table.report)

def runCommand (host : Host m) (verbose : Bool) : Command → Step m Printed
  | .compile options => runCompile host options
  | .validate options => runValidate host options
  | .inspect options => runInspect host options
  | .hex file width => runHex host file width
  | .check options => runCheck host options verbose
  | .operations json table => runOperations host json table

def outcome (verbose : Bool) (result : Except Failure Printed) : Outcome :=
  let ⟨output, errors, failure⟩ := match result with
    | .ok printed => printed
    | .error failure => ⟨"", "", some failure⟩
  match failure with
  | none => ⟨0, output, errors⟩
  | some failure => ⟨1, output, errors ++ failure.render verbose⟩

def usage : String :=
  "Compile, dissect and evaluate sandbox profiles\n\n" ++
  "Usage: sandtool [-v] COMMAND\n\n" ++
  "Commands:\n" ++
  "  compile FILE [-o OUTPUT] [--param NAME=VALUE]... [--backend BACKEND] [--hex]\n" ++
  "          [--operations TABLE]\n" ++
  "  validate FILE [--json] [--param NAME=VALUE]... [--operations TABLE]\n" ++
  "  inspect FILE [--json] [--operations TABLE]\n" ++
  "  hex FILE [--width WIDTH]\n" ++
  "  check FILE --operation OPERATION [--argument ARGUMENT] [--entitlement KEY]...\n" ++
  "        [--profile PROFILE] [--param NAME=VALUE]... [--json] [--operations TABLE]\n" ++
  "  operations [--json] [--operations TABLE]\n"

def versionLine : String := "sandtool 0.1.0\n"

def run (host : Host m) (arguments : List String) : m Outcome := do
  match Invocation.read arguments with
  | .error error => return ⟨2, "", "error: " ++ error.message ++ "\n\n" ++ usage⟩
  | .ok .help => return ⟨0, usage, ""⟩
  | .ok .version => return ⟨0, versionLine, ""⟩
  | .ok (.run verbose command) => return outcome verbose (← (runCommand host verbose command).run)

end Session

end SandboxPolicy
