import Testbed.Rehearsal.Shell.Octets

/-!
# Patterns

A pattern is a text in which some signs stand for other texts, unless they are quoted: a star for
any text, a question mark for any octet, and brackets for one octet out of a set.
-/

namespace Testbed.Rehearsal.Shell

/-- Octets, each with whether it was quoted. -/
abbrev Pattern := List (Bool × Char)

namespace Pattern

def suffixes : Octets → List Octets
  | [] => [[]]
  | c :: rest => (c :: rest) :: suffixes rest

def beginnings : Octets → List Octets
  | [] => [[]]
  | c :: rest => [] :: (beginnings rest).map (c :: ·)

structure Class where
  negated : Bool
  ranges : List (Char × Char)

def Class.mem (s : Class) (c : Char) : Bool :=
  s.ranges.any (fun r => r.1 ≤ c && c ≤ r.2) != s.negated

/-- Reads ranges up to the closing bracket, which counts as itself at the very front. -/
def ranges (first : Bool) : Pattern → Option (List (Char × Char) × Pattern)
  | [] => none
  | (_, low) :: (false, '-') :: (quoted, high) :: rest =>
    if (quoted, high) = (false, ']') then
      (ranges false ((quoted, high) :: rest)).map fun (rs, rest) =>
        ((low, low) :: ('-', '-') :: rs, rest)
    else (ranges false rest).map fun (rs, rest) => ((low, high) :: rs, rest)
  | (quoted, c) :: rest =>
    if (quoted, c) = (false, ']') && !first then some ([], rest)
    else (ranges false rest).map fun (rs, rest) => ((c, c) :: rs, rest)

def class? : Pattern → Option (Class × Pattern)
  | (false, '!') :: rest => (ranges true rest).map fun (rs, rest) => (⟨true, rs⟩, rest)
  | rest => (ranges true rest).map fun (rs, rest) => (⟨false, rs⟩, rest)

/-- Whether a text matches a pattern. The fuel is used up by the pattern. -/
def covers : Nat → Pattern → Octets → Bool
  | 0, _, _ => false
  | _ + 1, [], s => s.isEmpty
  | n + 1, (false, '*') :: rest, s => (suffixes s).any (covers n rest)
  | n + 1, (false, '?') :: rest, s =>
    match s with
    | [] => false
    | _ :: s => covers n rest s
  | n + 1, (quoted, p) :: rest, s =>
    let asSet := if (quoted, p) = (false, '[') then class? rest else none
    match asSet, s with
    | _, [] => false
    | some (set, rest), c :: s => set.mem c && covers n rest s
    | none, c :: s => p = c && covers n rest s

end Pattern

def Pattern.matchesAll (p : Pattern) (s : Octets) : Bool :=
  covers (p.length + 1) p s

/-- The text without what matches at its front, as little or as much as can be. -/
def Pattern.dropFront (p : Pattern) (most : Bool) (s : Octets) : Octets :=
  let all := Pattern.beginnings s
  match (if most then all.reverse else all).find? p.matchesAll with
  | some front => s.drop front.length
  | none => s

def Pattern.dropBack (p : Pattern) (most : Bool) (s : Octets) : Octets :=
  let all := Pattern.suffixes s
  match (if most then all else all.reverse).find? p.matchesAll with
  | some back => s.take (s.length - back.length)
  | none => s

end Testbed.Rehearsal.Shell
