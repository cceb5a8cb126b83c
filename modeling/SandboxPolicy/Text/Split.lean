import SandboxPolicy.Text.Character

/-!
Cutting a text at a character, at its line ends and at its blanks.
-/

namespace SandboxPolicy

def afterStart? : List Char → List Char → Option (List Char)
  | [], text => some text
  | _ :: _, [] => none
  | c :: start, d :: text => if c = d then afterStart? start text else none

def splitFirst? (mark : Char) : List Char → Option (List Char × List Char)
  | [] => none
  | c :: rest =>
      if c = mark then some ([], rest)
      else (splitFirst? mark rest).map fun parts => (c :: parts.1, parts.2)

def splitLast? (mark : Char) : List Char → Option (List Char × List Char)
  | [] => none
  | c :: rest =>
      match splitLast? mark rest with
      | some parts => some (c :: parts.1, parts.2)
      | none => if c = mark then some ([], rest) else none

def upTo (mark : Char) (text : List Char) : List Char := text.takeWhile (· ≠ mark)

def trimStart (unwanted : Char → Bool) (text : List Char) : List Char := text.dropWhile unwanted

def trimEnd (unwanted : Char → Bool) (text : List Char) : List Char :=
  (text.reverse.dropWhile unwanted).reverse

def trimBoth (unwanted : Char → Bool) (text : List Char) : List Char :=
  trimEnd unwanted (trimStart unwanted text)

def withoutReturn (line : List Char) : List Char :=
  if line.getLast? = some '\r' then line.dropLast else line

/-- The lines of a text: a newline, or a carriage return and a newline, ends each of them, and the
last may do without. `line` holds the line so far in reverse. -/
def linesFrom (line : List Char) : List Char → List (List Char)
  | [] => if line.isEmpty then [] else [line.reverse]
  | c :: rest =>
      if c = '\n' then withoutReturn line.reverse :: linesFrom [] rest
      else linesFrom (c :: line) rest

def linesOf (text : List Char) : List (List Char) := linesFrom [] text

end SandboxPolicy
