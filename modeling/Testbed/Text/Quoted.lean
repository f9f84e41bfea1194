import Testbed.Text.Unprintable

/-!
# Quoted text

A text as messages show it: between double quotes, with the usual escapes, and with every
character that has no glyph of its own given by its number.
-/

namespace Testbed.Text

/-- The number in hexadecimal digits between braces. -/
def numberEscape (c : Char) : List Char :=
  "\\u\x7b".toList ++ Nat.toDigits 16 c.toNat ++ ['\x7d']

/-- One character inside the quotes. An apostrophe needs no escape there. -/
def escape (c : Char) : List Char :=
  if c = '"' then ['\\', '"']
  else if c = '\\' then ['\\', '\\']
  else if c = '\n' then ['\\', 'n']
  else if c = '\r' then ['\\', 'r']
  else if c = '\t' then ['\\', 't']
  else if c.toNat = 0 then ['\\', '0']
  else if isUnprintable c then numberEscape c
  else [c]

def quoted (s : String) : String :=
  String.ofList ('"' :: s.toList.flatMap escape ++ ['"'])

end Testbed.Text
