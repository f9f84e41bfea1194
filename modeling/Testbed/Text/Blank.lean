/-!
# Blank characters

Blanks are the characters with the Unicode property White_Space. A text is trimmed by dropping
blanks at both ends, and its words are the longest runs without a blank. No word is empty.
-/

namespace Testbed.Text

/-- The Unicode property White_Space. -/
def isBlank (c : Char) : Bool :=
  let n := c.toNat
  (9 ≤ n && n ≤ 13) || n == 0x20 || n == 0x85 || n == 0xA0 || n == 0x1680 ||
    (0x2000 ≤ n && n ≤ 0x200A) || n == 0x2028 || n == 0x2029 || n == 0x202F ||
    n == 0x205F || n == 0x3000

def trimEnd (s : List Char) : List Char :=
  (s.reverse.dropWhile isBlank).reverse

def trim (s : List Char) : List Char :=
  trimEnd (s.dropWhile isBlank)

def onlyBlanks (s : List Char) : Bool :=
  s.all isBlank

/-- The longest runs of characters that are not blank, in order. -/
def words (s : List Char) : List (List Char) :=
  let step (c : Char) (found : List Char × List (List Char)) :=
    if isBlank c then
      ([], if found.1.isEmpty then found.2 else found.1 :: found.2)
    else (c :: found.1, found.2)
  let (first, rest) := s.foldr step ([], [])
  if first.isEmpty then rest else first :: rest

end Testbed.Text
