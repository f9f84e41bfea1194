/-!
# JSON strings as text

A string stands between double quotes. Quotes, backslashes and the control characters below the
space are escaped, and every other character stands for itself.
-/

namespace Testbed.Json

/-- The four digits after a Unicode escape. -/
def fourDigits (n : Nat) : List Char :=
  let digits := Nat.toDigits 16 n
  List.replicate (4 - digits.length) '0' ++ digits

def escape (c : Char) : List Char :=
  if c = '"' then ['\\', '"']
  else if c = '\\' then ['\\', '\\']
  else if c = '\n' then ['\\', 'n']
  else if c = '\r' then ['\\', 'r']
  else if c = '\t' then ['\\', 't']
  else if c.toNat = 8 then ['\\', 'b']
  else if c.toNat = 12 then ['\\', 'f']
  else if c.toNat < 0x20 then '\\' :: 'u' :: fourDigits c.toNat
  else [c]

def stringText (s : String) : String :=
  String.ofList ('"' :: s.toList.flatMap escape ++ ['"'])

def memberText (key value : String) : String :=
  stringText key ++ ":" ++ stringText value

/-- An object of strings, its members in the given order. -/
def objectText (members : List (String × String)) : String :=
  "\x7b" ++ String.intercalate "," (members.map fun m => memberText m.1 m.2) ++ "\x7d"

end Testbed.Json
