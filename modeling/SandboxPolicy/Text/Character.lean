import SandboxPolicy.Text.Repertoire

/-!
Classes of characters that reading and printing depend on. Each is a property of the whole
character repertoire; the letters and digits of ASCII are decided without a table.
-/

namespace SandboxPolicy

def isBlank (c : Char) : Bool :=
  let code := c.toNat
  (9 ≤ code && code ≤ 13) || code == 0x20 || code == 0x85 || code == 0xa0 || code == 0x1680 ||
    (0x2000 ≤ code && code ≤ 0x200a) || code == 0x2028 || code == 0x2029 || code == 0x202f ||
    code == 0x205f || code == 0x3000

def isAscii (c : Char) : Bool := c.toNat < 128

def isAsciiLetter (c : Char) : Bool := ('a' ≤ c && c ≤ 'z') || ('A' ≤ c && c ≤ 'Z')

def isDigit (c : Char) : Bool := '0' ≤ c && c ≤ '9'

def isAlphabetic (c : Char) : Bool :=
  if isAscii c then isAsciiLetter c else Repertoire.alphabetic.contains c

def isNumeric (c : Char) : Bool :=
  if isAscii c then isDigit c else Repertoire.numeric.contains c

def isAlphanumeric (c : Char) : Bool := isAlphabetic c || isNumeric c

/-- A mark that cannot be seen apart from the character before it. The two sound marks of half
width have a cell of their own. -/
def isGraphemeExtending (c : Char) : Bool :=
  !isAscii c && Repertoire.graphemeExtend.contains c && c != '\uff9e' && c != '\uff9f'

def isPrintable (c : Char) : Bool :=
  if isAscii c then ' ' ≤ c && c ≤ '~'
  else !Repertoire.formless.contains c && !Repertoire.defaultIgnorable.contains c

end SandboxPolicy
