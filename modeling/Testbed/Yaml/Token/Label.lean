import Testbed.Text.Utf8
import Testbed.Yaml.Token
import Testbed.Yaml.Token.Scalar

/-!
# Anchors, tags and directives in a YAML text

The tokens that begin with an ampersand, an asterisk, an exclamation mark or a percent sign.
-/

namespace Testbed.Yaml

def readWord (c : Cursor) : List Char × Cursor :=
  (c.rest.takeWhile isWordChar, c.skipWhile isWordChar)

def endsAnchor (c : Cursor) : Bool :=
  c.atGap || (c.next?.any fun x => ['?', ':', ',', ']', '\x7d', '%', '@', '\x60'].contains x)

/-- The name behind an ampersand or an asterisk. -/
def readAnchor? (c : Cursor) : Option (String × Cursor) :=
  let (name, c) := readWord c.skip
  if name.isEmpty || !endsAnchor c then none else some (String.ofList name, c)

/-- The characters of a tag. Those of collections are allowed only in a verbatim one. -/
def isTagChar (verbatim : Bool) (x : Char) : Bool :=
  isWordChar x ||
    [';', '/', '?', ':', '@', '&', '=', '+', '$', '.', '!', '~', '*', '\'', '(', ')'].contains x ||
    (verbatim && [',', '[', ']'].contains x)

/-- How many octets the character has that begins with this one. -/
def octetCount? (octet : Nat) : Option Nat :=
  if octet < 0x80 then some 1
  else if 0xC0 ≤ octet && octet < 0xE0 then some 2
  else if 0xE0 ≤ octet && octet < 0xF0 then some 3
  else if 0xF0 ≤ octet && octet < 0xF8 then some 4
  else none

def percentOctet? (c : Cursor) : Option Nat := do
  if c.isAt '%' then return (← Json.hexValue? (← c.ahead? 1)) * 16 + (← Json.hexValue? (← c.ahead? 2))
  else none

def percentRest? : Nat → List UInt8 → Cursor → Option (List UInt8 × Cursor)
  | 0, octets, c => some (octets, c)
  | n + 1, octets, c => do
    let octet ← percentOctet? c
    if octet / 64 = 2 then percentRest? n (octets ++ [UInt8.ofNat octet]) (c.skipMany 3) else none

/-- A character that is escaped octet by octet. -/
def readEscaped? (c : Cursor) : Option (List UInt8 × Cursor) := do
  let octet ← percentOctet? c
  let count ← octetCount? octet
  percentRest? (count - 1) [UInt8.ofNat octet] (c.skipMany 3)

def tagOctets? (verbatim : Bool) :
    Nat → List UInt8 → Cursor → Option (List UInt8 × Cursor)
  | 0, _, _ => none
  | fuel + 1, octets, c =>
    match c.next? with
    | none => some (octets, c)
    | some x =>
      if x == '%' then do
        let (more, c) ← readEscaped? c
        tagOctets? verbatim fuel (octets ++ more) c
      else if isTagChar verbatim x then
        tagOctets? verbatim fuel (octets ++ String.utf8EncodeChar x) c.skip
      else some (octets, c)

/-- A tag that starts with `head`. What is no text becomes the empty tag. -/
def readTagText? (verbatim : Bool) (head : List Char) (c : Cursor) :
    Option (String × Cursor) := do
  let (octets, c) ← tagOctets? verbatim (c.rest.length + 1) (Text.encode head) c
  return (String.ofList ((Text.decode? octets).getD []), c)

/-- The same, if there is at least one character. -/
def readTagSuffix? (verbatim : Bool) (c : Cursor) : Option (String × Cursor) := do
  let (text, after) ← readTagText? verbatim [] c
  if after.index = c.index then none else return (text, after)

/-- An exclamation mark, a word and perhaps another exclamation mark. -/
def readHandle? (c : Cursor) : Option (List Char × Cursor) :=
  if c.isAt '!' then
    let (word, c) := readWord c.skip
    if c.isAt '!' then some ('!' :: word ++ ['!'], c.skip) else some ('!' :: word, c)
  else none

def isNamedHandle (handle : List Char) : Bool :=
  2 ≤ handle.length && handle.getLast? == some '!'

def readTag? (flow : Bool) (c : Cursor) : Option (String × String × Cursor) := do
  let (handle, suffix, c) ←
    if c.ahead? 1 == some '<' then do
      let (suffix, c) ← readTagSuffix? true (c.skipMany 2)
      if c.isAt '>' then pure ("", suffix, c.skip) else none
    else do
      let (handle, c) ← readHandle? c
      if isNamedHandle handle then do
        let (suffix, c) ← readTagSuffix? false c
        pure (String.ofList handle, suffix, c)
      else do
        let (suffix, c) ← readTagText? false (handle.drop 1) c
        pure (if suffix.isEmpty then ("", "!", c) else ("!", suffix, c))
  if c.atGap || (flow && c.isAt ',') then return (handle, suffix, c) else none

/-- A number of at most nine digits. -/
def readVersionNumber? (c : Cursor) : Option (Nat × Cursor) :=
  let digits := c.rest.takeWhile Text.isDigit
  if digits.isEmpty || 9 < digits.length then none
  else some (Text.value digits, c.skipMany digits.length)

def readVersion? (c : Cursor) : Option (Token × Cursor) := do
  let (major, c) ← readVersionNumber? (c.skipWhile isBlank)
  if c.isAt '.' then
    let (minor, c) ← readVersionNumber? c.skip
    return (.version major minor, c)
  else none

def readShorthand? (c : Cursor) : Option (Token × Cursor) := do
  let (handle, c) ← readHandle? (c.skipWhile isBlank)
  if !(handle == ['!'] || isNamedHandle handle) || !c.atBlank then none
  let (expansion, c) ← readTagSuffix? true (c.skipWhile isBlank)
  if c.atGap then return (.tagShorthand (String.ofList handle) expansion, c) else none

/-- A directive at its percent sign, with the rest of its line. -/
def readDirective? (c : Cursor) : Option (Token × Cursor) := do
  let (name, c) := readWord c.skip
  if !c.atGap then none
  let (token, c) ← match String.ofList name with
    | "YAML" => readVersion? c
    | "TAG" => readShorthand? c
    | _ => none
  let c := c.skipComment
  if c.atBreakOrEnd then return (token, c.skipBreak) else none

end Testbed.Yaml
