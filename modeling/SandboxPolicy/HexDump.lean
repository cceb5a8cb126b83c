import SandboxPolicy.Text.Quoted

/-!
Bytes as a table: each line has its offset, the bytes in hexadecimal, and those that can be shown
as characters.
-/

namespace SandboxPolicy.HexDump

def shown (byte : UInt8) : Char :=
  if 0x20 ≤ byte ∧ byte ≤ 0x7e then Char.ofNat byte.toNat else '.'

def cell (column : Nat) (byte : Option UInt8) : String :=
  (if column % 8 = 0 then " " else "") ++
    match byte with
    | some byte => hexPadded 2 byte.toNat ++ " "
    | none => "   "

def line (width offset : Nat) (bytes : List UInt8) : String :=
  hexPadded 8 offset ++ " " ++
    String.join ((List.range width).map fun column => cell column bytes[column]?) ++
    " |" ++ String.ofList (bytes.map shown) ++ "|\n"

def linesFrom (width offset : Nat) (bytes : List UInt8) : List String :=
  match bytes with
  | [] => []
  | first :: rest =>
      line width offset (first :: rest.take (width - 1)) ::
        linesFrom width (offset + width) (rest.drop (width - 1))
termination_by bytes.length
decreasing_by simp only [List.length_drop, List.length_cons]; omega

/-- The table of the bytes; a width of zero counts as one. -/
def render (bytes : List UInt8) (width : Nat) : String :=
  String.join (linesFrom (max width 1) 0 bytes)

end SandboxPolicy.HexDump
