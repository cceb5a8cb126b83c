import SandboxPolicy.SExpr.Basic
import SandboxPolicy.Text.Position

/-!
Tokens of a policy source. The scanner takes one character at a time, so that what it knows after
a part of the text is one value of `Scan`; an atom ends at the first character that cannot
continue it, and comments of the block kind nest.
-/

namespace SandboxPolicy

inductive ReadFault where
  | unexpectedChar (c : Char)
  | unterminatedString
  | unterminatedComment
  | unclosedParen
  | unmatchedParen
deriving Repr, DecidableEq

structure ReadError where
  fault : ReadFault
  offset : Nat
deriving Repr, DecidableEq

def ReadFault.message : ReadFault → String
  | .unexpectedChar c => "unexpected character '" ++ c.toString ++ "'"
  | .unterminatedString => "unterminated string literal"
  | .unterminatedComment => "unterminated block comment"
  | .unclosedParen => "unclosed parenthesis (no matching ')')"
  | .unmatchedParen => "unexpected ')' without matching '('"

inductive Token where
  | opening (offset : Nat)
  | closing (offset : Nat)
  | atom (text : String) (span : Span)
  | str (text : String) (span : Span)
  | regex (text : String) (span : Span)
deriving Repr, DecidableEq

/-- The characters of an atom: letters and digits of any script, and a set of signs. -/
def isAtomChar (c : Char) : Bool :=
  isAlphanumeric c ||
    ['*', '.', '-', '_', '/', '~', '!', '+', '?', '@', ':', '#', '$', '<', '>', '=', '%', '&', '^',
      '\x7b', '\x7d'].contains c

/-- What the scanner is inside of. Texts are kept in reverse; `start` is where the token or the
outermost comment began. A block comment also counts the comments around it. -/
inductive Scan where
  | between
  | lineComment
  | hash (start : Nat)
  | atom (start : Nat) (text : List Char)
  | quoted (start : Nat) (verbatim : Bool) (text : List Char)
  | escape (start : Nat) (verbatim : Bool) (text : List Char)
  | block (start : Nat) (around : Nat)
  | blockBar (start : Nat) (around : Nat)
  | blockHash (start : Nat) (around : Nat)
deriving Repr, DecidableEq

namespace Scan

def begin (offset : Nat) (c : Char) : Except ReadError (Scan × List Token) :=
  if isBlank c then .ok (.between, [])
  else if c = ';' then .ok (.lineComment, [])
  else if c = '(' then .ok (.between, [.opening offset])
  else if c = ')' then .ok (.between, [.closing offset])
  else if c = '"' then .ok (.quoted offset false [], [])
  else if c = '#' then .ok (.hash offset, [])
  else if isAtomChar c then .ok (.atom offset [c], [])
  else .error ⟨.unexpectedChar c, offset⟩

def inAtom (start : Nat) (text : List Char) (offset : Nat) (c : Char) :
    Except ReadError (Scan × List Token) :=
  if isAtomChar c then .ok (.atom start (c :: text), [])
  else do
    let (next, tokens) ← begin offset c
    return (next, .atom (String.ofList text.reverse) ⟨start, offset⟩ :: tokens)

def inBlock (start around : Nat) (c : Char) : Scan :=
  if c = '|' then .blockBar start around
  else if c = '#' then .blockHash start around
  else .block start around

def unescape (verbatim : Bool) (c : Char) (text : List Char) : List Char :=
  if verbatim then c :: '\\' :: text
  else if c = '"' ∨ c = '\\' then c :: text
  else if c = 'n' then '\n' :: text
  else if c = 't' then '\t' :: text
  else c :: '\\' :: text

def quotedToken (verbatim : Bool) (text : List Char) (span : Span) : Token :=
  if verbatim then .regex (String.ofList text.reverse) span
  else .str (String.ofList text.reverse) span

def step (scan : Scan) (offset : Nat) (c : Char) : Except ReadError (Scan × List Token) :=
  match scan with
  | .between => begin offset c
  | .lineComment => .ok (if c = '\n' then .between else .lineComment, [])
  | .hash start =>
      if c = '"' then .ok (.quoted start true [], [])
      else if c = '|' then .ok (.block start 0, [])
      else inAtom start ['#'] offset c
  | .atom start text => inAtom start text offset c
  | .quoted start verbatim text =>
      if c = '"' then .ok (.between, [quotedToken verbatim text ⟨start, offset + 1⟩])
      else if c = '\\' then .ok (.escape start verbatim text, [])
      else .ok (.quoted start verbatim (c :: text), [])
  | .escape start verbatim text => .ok (.quoted start verbatim (unescape verbatim c text), [])
  | .block start around => .ok (inBlock start around c, [])
  | .blockBar start around =>
      if c = '#' then
        match around with
        | 0 => .ok (.between, [])
        | around + 1 => .ok (.block start around, [])
      else .ok (inBlock start around c, [])
  | .blockHash start around =>
      if c = '|' then .ok (.block start (around + 1), [])
      else .ok (inBlock start around c, [])

def finish (scan : Scan) (offset : Nat) : Except ReadError (List Token) :=
  match scan with
  | .between | .lineComment => .ok []
  | .hash start => .ok [.atom "#" ⟨start, offset⟩]
  | .atom start text => .ok [.atom (String.ofList text.reverse) ⟨start, offset⟩]
  | .quoted start _ _ | .escape start _ _ => .error ⟨.unterminatedString, start⟩
  | .block start _ | .blockBar start _ | .blockHash start _ => .error ⟨.unterminatedComment, start⟩

/-- Scans the characters from the offset on; the tokens so far are kept in reverse. -/
def run (scan : Scan) (offset : Nat) (tokens : List Token) :
    List Char → Except ReadError (List Token)
  | [] => do return tokens.reverse ++ (← scan.finish offset)
  | c :: rest => do
      let (next, completed) ← scan.step offset c
      next.run (offset + c.utf8Size) (completed.reverse ++ tokens) rest

end Scan

def scanTokens (text : List Char) : Except ReadError (List Token) := Scan.between.run 0 [] text

end SandboxPolicy
