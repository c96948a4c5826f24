import GuestBridge.Text.GraphemeExtend
import GuestBridge.Text.Unprintable
/-!
Text between double quotes with escapes, so that every character of the result is visible.
-/

set_option autoImplicit false

namespace GuestBridge.Text

def hexDigits (n : Nat) : List Char := Nat.toDigits 16 n

/-- `\u` with the code point in hexadecimal between braces. -/
def codePointEscape (c : Char) : List Char :=
  ['\\', 'u', '\x7b'] ++ hexDigits c.toNat ++ ['\x7d']

/-- Backslash, double quote and four controls have short escapes; combining marks and characters
without a visible form are written as code points; all else stands for itself. -/
def escapeChar (c : Char) : List Char :=
  if c = '\x00' then ['\\', '0']
  else if c = '\t' then ['\\', 't']
  else if c = '\r' then ['\\', 'r']
  else if c = '\n' then ['\\', 'n']
  else if c = '"' then ['\\', '"']
  else if c = '\\' then ['\\', '\\']
  else if ' ' ≤ c ∧ c ≤ '~' then [c]
  else if isGraphemeExtend c || !isPrintable c then codePointEscape c
  else [c]

def quoted (s : String) : String :=
  String.ofList ('"' :: s.toList.flatMap escapeChar ++ ['"'])

end GuestBridge.Text
