import Testbed.Text.Utf8

/-!
# Octets as characters

The shell works on octets. Each is held as the character of the same number, so that scripts can
be read by character, and a text is its octets in this form.
-/

namespace Testbed.Rehearsal.Shell

/-- Octets, each as the character of the same number. -/
abbrev Octets := List Char

def Octets.ofBytes (bytes : List UInt8) : Octets :=
  bytes.map fun b => Char.ofNat b.toNat

def Octets.toBytes (s : Octets) : List UInt8 :=
  s.map fun c => UInt8.ofNat c.toNat

def Octets.ofText (s : String) : Octets :=
  Octets.ofBytes (Text.encode s.toList)

def Octets.toText (s : Octets) : String :=
  String.ofList (Text.decodeLossy s.toBytes)

def Octets.ofNat (n : Nat) : Octets :=
  (toString n).toList

def Octets.digits? (s : Octets) : Option Nat :=
  if s = [] || s.any (!·.isDigit) then none
  else some (s.foldl (fun n c => n * 10 + (c.toNat - '0'.toNat)) 0)

def Octets.integer? : Octets → Option Int
  | '-' :: rest => (Octets.digits? rest).map fun n => -(n : Int)
  | '+' :: rest => (Octets.digits? rest).map Int.ofNat
  | s => (Octets.digits? s).map Int.ofNat

end Testbed.Rehearsal.Shell
