import SandboxPolicy.Text.Quoted

/-!
What can be wrong with compiled profiles, when they are read and when they are written.
-/

namespace SandboxPolicy

inductive BytecodeError where
  | tooSmall (needed position length : Nat)
  | offsetTooLarge (offset length : Nat)
  | invalidText (offset : Nat)
  | operationCount (declared expected : Nat)
  | unknownFlag (flags : UInt16)
  | noProfile
  | overflow (table : String) (count limit : Nat)
deriving Repr, DecidableEq, Inhabited

def hexNumber (value : Nat) : String := "0x" ++ hexPadded 0 value

def BytecodeError.message : BytecodeError → String
  | .tooSmall needed position length =>
      s!"file is too small to be parsed: needed {needed} bytes at " ++ hexNumber position ++
        s!", have {length}"
  | .offsetTooLarge offset length =>
      "offset " ++ hexNumber offset ++ s!" exceeds the {length} bytes of usable data"
  | .invalidText offset => "invalid string at data offset " ++ hexNumber offset
  | .operationCount declared expected =>
      s!"header declares {declared} operations but the table has {expected}"
  | .unknownFlag flags => "unknown bytecode flag 0x" ++ hexPadded 4 flags.toNat
  | .noProfile => "bytecode has no profile"
  | .overflow table count limit => s!"{table} overflow: {count} entries, at most {limit} fit"

end SandboxPolicy
