import SandboxPolicy.Regex.Automaton
import SandboxPolicy.Regex.Matching
import SandboxPolicy.Regex.Meaning

/-!
Regular expressions ready for use. A pattern is refused when it cannot be read, when it has no
meaning over characters, or when its automaton would be too large.
-/

namespace SandboxPolicy

inductive RegexError where
  | faulty (pattern : String) (fault : Regex.Fault)
  | tooLarge (limit : Nat)
deriving Repr, DecidableEq

def RegexError.message : RegexError → String
  | .faulty pattern fault => fault.render pattern
  | .tooLarge limit => s!"Compiled regex exceeds size limit of {limit} bytes."

def Regex.compile (pattern : String) : Except RegexError Regex.Pattern :=
  match Regex.read pattern with
  | .error fault => .error (.faulty pattern fault)
  | .ok expression =>
      match expression.pattern .initial with
      | .error fault => .error (.faulty pattern fault)
      | .ok (meaning, _) =>
          if meaning.fits then .ok meaning else .error (.tooLarge Regex.Piece.sizeLimit)

end SandboxPolicy
