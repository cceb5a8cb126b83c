import SandboxPolicy.Evaluator
import SandboxPolicy.Settings

/-!
Failures of the program: what could not be done, why not, and what may help.
-/

namespace SandboxPolicy

inductive FileError where
  | missing
  | notDirectory
  | isDirectory
  | permissionDenied
  | nameTooLong
  | zeroInName
  | other (what : String)
deriving Repr, DecidableEq, Inhabited

def FileError.message : FileError → String
  | .missing => "No such file or directory (os error 2)"
  | .notDirectory => "Not a directory (os error 20)"
  | .isDirectory => "Is a directory (os error 21)"
  | .permissionDenied => "Permission denied (os error 13)"
  | .nameTooLong => "File name too long (os error 36)"
  | .zeroInName => "file name contained an unexpected NUL byte"
  | .other what => what

structure Failure where
  message : String
  causes : List String
  hint : Option String
deriving Repr, DecidableEq, Inhabited

namespace Failure

def plain (message : String) : Failure := ⟨message, [], none⟩

def within (failure : Failure) (message : String) : Failure :=
  ⟨message, failure.message :: failure.causes, failure.hint⟩

def ofFile (error : FileError) : Failure := plain error.message

def policyCauses : PolicyError → List String
  | .unreadable error => [error.render]
  | _ => []

def ofCompile (error : CompileError) : Failure :=
  let causes := match error with
    | .policy error => policyCauses error
    | .bytecode error => [error.message]
    | _ => []
  ⟨error.message, causes, error.help⟩

def bytecodeHint : BytecodeError → Option String
  | .operationCount _ _ =>
      some "the profile was built for another OS release; pass a matching --operations table"
  | .tooSmall _ _ _ | .offsetTooLarge _ _ =>
      some "the file is truncated or is not compiled sandbox bytecode"
  | _ => none

def ofBytecode (error : BytecodeError) : Failure := ⟨error.message, [], bytecodeHint error⟩

def ofEval (error : EvalError) : Failure :=
  let hint := match error with
    | .bytecode error => bytecodeHint error
    | .unknownOperation _ => some "run `sandtool operations` to list valid names"
    | .noSuchProfile _ _ => some "run `sandtool inspect` to list the profiles"
    | _ => none
  ⟨error.message, [], hint⟩

def ofTable (error : TableError) : Failure :=
  let hint := match error with
    | .missingDefault _ => some "the first line of an operation table must be 'default'"
    | _ => none
  ⟨error.message, [], hint⟩

def causeLines : List String → String
  | [] => ""
  | [cause] => "  caused by: " ++ cause ++ "\n"
  | causes => String.join (causes.zipIdx.map fun entry => s!"  {entry.2 + 1}: " ++ entry.1 ++ "\n")

/-- The lines of a text, with `first` in front of the first one and `others` in front of the
rest. -/
def indented (first others : String) (text : String) : String :=
  first ++ String.ofList (text.toList.flatMap fun c =>
    if c = '\n' then c :: others.toList else [c])

def chainEntry (several : Bool) (entry : String × Nat) : String :=
  if several then
    indented (String.ofList ((toString entry.2).toList.leftpad 5 ' ') ++ ": ") "       " entry.1
  else indented "    " "    " entry.1

def chain (failure : Failure) : String :=
  if failure.causes.isEmpty then failure.message
  else
    let several := 1 < failure.causes.length
    failure.message ++ "\n\nCaused by:" ++
      String.join (failure.causes.zipIdx.map fun entry => "\n" ++ chainEntry several entry)

def render (failure : Failure) (verbose : Bool) : String :=
  "error: " ++ failure.message ++ "\n" ++ causeLines failure.causes ++
    (match failure.hint with
      | some hint => "\n  hint: " ++ hint ++ "\n"
      | none => "") ++
    (if verbose then "\nFull error chain:\n" ++ failure.chain ++ "\n"
      else if failure.causes.isEmpty then ""
      else "\n  run with --verbose for full details\n")

end Failure

end SandboxPolicy
