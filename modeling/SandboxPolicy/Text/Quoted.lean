import SandboxPolicy.Text.Character

/-!
The quoted form of a text: quotes and backslashes are escaped, the common control characters have
short escapes, and any other character without a visible form of its own is written by its code.
-/

namespace SandboxPolicy

def hexDigit (value : Nat) : Char :=
  if value < 10 then Char.ofNat ('0'.toNat + value) else Char.ofNat ('a'.toNat + value - 10)

def hexDigits (value : Nat) : List Char :=
  if value < 16 then [hexDigit value] else hexDigits (value / 16) ++ [hexDigit (value % 16)]
termination_by value

theorem hexDigits_of_lt {value : Nat} (small : value < 16) :
    hexDigits value = [hexDigit value] := by
  rw [hexDigits, if_pos small]

theorem hexDigits_of_le {value : Nat} (large : 16 ≤ value) :
    hexDigits value = hexDigits (value / 16) ++ [hexDigit (value % 16)] := by
  rw [hexDigits, if_neg (Nat.not_lt.mpr large)]

/-- What holds of the sixteen digits holds of those of any number. -/
theorem forall_mem_hexDigits {p : Char → Prop} (digit : ∀ value < 16, p (hexDigit value))
    (value : Nat) : ∀ c ∈ hexDigits value, p c := by
  induction value using hexDigits.induct with
  | case1 value small =>
      rw [hexDigits_of_lt small, List.forall_mem_singleton]
      exact digit value small
  | case2 value large ih =>
      rw [hexDigits_of_le (Nat.le_of_not_lt large), List.forall_mem_append,
        List.forall_mem_singleton]
      exact ⟨ih, digit _ (Nat.mod_lt value (by decide))⟩

def hexPadded (width value : Nat) : String :=
  String.ofList ((hexDigits value).leftpad width '0')

def quoteChar (c : Char) : List Char :=
  if c = '\x00' then ['\\', '0']
  else if c = '\t' then ['\\', 't']
  else if c = '\r' then ['\\', 'r']
  else if c = '\n' then ['\\', 'n']
  else if c = '"' ∨ c = '\\' then ['\\', c]
  else if isGraphemeExtending c ∨ ¬ isPrintable c then
    ['\\', 'u', '\x7b'] ++ hexDigits c.toNat ++ ['\x7d']
  else [c]

def quotedChars (text : List Char) : List Char := '"' :: text.flatMap quoteChar ++ ['"']

def quoted (text : String) : String := String.ofList (quotedChars text.toList)

end SandboxPolicy
