/-!
# Decimal numerals

`value` reads a digit string. A word of sixteen bits may carry one plus sign and any number of
leading zeros. `padded` writes a number with at least a given number of digits.
-/

namespace Testbed.Text

def isDigit (c : Char) : Bool :=
  '0' ≤ c && c ≤ '9'

/-- The number that a digit string in the given base denotes, read from the left. -/
def valueIn (base : Nat) (digit : Char → Nat) (s : List Char) : Nat :=
  s.foldl (fun n c => base * n + digit c) 0

def digitValue (c : Char) : Nat :=
  c.toNat - '0'.toNat

def value (s : List Char) : Nat :=
  valueIn 10 digitValue s

/-- The digits after at most one plus sign. -/
def unsigned (s : List Char) : List Char :=
  match s with
  | '+' :: digits => digits
  | _ => s

/-- A number below 65536 written with ASCII digits, perhaps after a plus sign. -/
def word16? (s : List Char) : Option Nat :=
  let digits := unsigned s
  if !digits.isEmpty && digits.all isDigit && value digits ≤ 65535 then some (value digits)
  else none

/-- The decimal digits of a number, with zeros in front up to the given width. -/
def padded (width n : Nat) : List Char :=
  let digits := Nat.toDigits 10 n
  List.replicate (width - digits.length) '0' ++ digits

end Testbed.Text
