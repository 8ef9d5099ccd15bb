import ContentCache.Bytes
import ContentCache.Text.Unshown

/-!
# Quoted text

A text between double quotes for people to read. A quote and a backslash have a backslash before
them, NUL, tab, line feed and carriage return are written as letters, and every other character
that cannot be shown is written as its code point in hexadecimal between braces.
-/

namespace ContentCache.Text

/-- A code point in hexadecimal, without zeros in front. -/
def codeText (n : Nat) : List Char := (Nat.toDigits 16 n)

/-- The written form of one character. -/
def escaped (c : Char) : List Char :=
  if c = '"' then ['\\', '"']
  else if c = '\\' then ['\\', '\\']
  else if c = '\n' then ['\\', 'n']
  else if c = '\r' then ['\\', 'r']
  else if c = '\t' then ['\\', 't']
  else if c = Char.ofNat 0 then ['\\', '0']
  else if isUnshown c then ['\\', 'u', '\x7b'] ++ codeText c.toNat ++ ['\x7d']
  else [c]

def quoted (s : String) : String := String.ofList ('"' :: s.toList.flatMap escaped ++ ['"'])

end ContentCache.Text
