/-!
# UTF-8

An octet machine. Its state is what an unfinished sequence still needs, and every octet either
extends that sequence, completes it, or ends it as ill-formed and is read again as a first
octet. So an ill-formed stretch yields one mark for each maximal part that could still have
begun a character.
-/

namespace Testbed.Text

/-- A sequence that has begun: the bits so far, how many octets are missing, and the range in
which the next one has to lie. -/
structure Unfinished where
  bits : Nat
  missing : Nat
  low : Nat
  high : Nat

/-- What has been read: a character, or a stretch that is none. -/
abbrev Unit8 := Option Char

def firstOctet (b : Nat) : List Unit8 × Option Unfinished :=
  if b < 0x80 then ([some (Char.ofNat b)], none)
  else if 0xC2 ≤ b && b ≤ 0xDF then ([], some ⟨b - 0xC0, 1, 0x80, 0xBF⟩)
  else if b = 0xE0 then ([], some ⟨0, 2, 0xA0, 0xBF⟩)
  else if b = 0xED then ([], some ⟨0xD, 2, 0x80, 0x9F⟩)
  else if 0xE1 ≤ b && b ≤ 0xEF then ([], some ⟨b - 0xE0, 2, 0x80, 0xBF⟩)
  else if b = 0xF0 then ([], some ⟨0, 3, 0x90, 0xBF⟩)
  else if 0xF1 ≤ b && b ≤ 0xF3 then ([], some ⟨b - 0xF0, 3, 0x80, 0xBF⟩)
  else if b = 0xF4 then ([], some ⟨4, 3, 0x80, 0x8F⟩)
  else ([none], none)

def nextOctet (pending : Option Unfinished) (b : Nat) : List Unit8 × Option Unfinished :=
  match pending with
  | none => firstOctet b
  | some p =>
    if p.low ≤ b && b ≤ p.high then
      let bits := p.bits * 64 + (b - 0x80)
      if p.missing ≤ 1 then ([some (Char.ofNat bits)], none)
      else ([], some ⟨bits, p.missing - 1, 0x80, 0xBF⟩)
    else
      let (units, pending) := firstOctet b
      (none :: units, pending)

/-- The characters and ill-formed stretches of an octet string, in order. -/
def units (octets : List UInt8) : List Unit8 :=
  let step (state : List Unit8 × Option Unfinished) (b : UInt8) :=
    let (units, pending) := nextOctet state.2 b.toNat
    (units.reverse ++ state.1, pending)
  let (found, pending) := octets.foldl step ([], none)
  (if pending.isSome then none :: found else found).reverse

/-- The text of an octet string, with U+FFFD for each ill-formed stretch. -/
def decodeLossy (octets : List UInt8) : List Char :=
  (units octets).map (·.getD (Char.ofNat 0xFFFD))

def decode? (octets : List UInt8) : Option (List Char) :=
  let all := units octets
  if all.all Option.isSome then some (all.filterMap id) else none

def encode (s : List Char) : List UInt8 :=
  s.flatMap String.utf8EncodeChar

end Testbed.Text
