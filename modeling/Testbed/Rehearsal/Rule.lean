/-!
# Rules that make requests fail

A rule applies to the requests whose text contains its pattern. It lets some of them pass, and
then makes a number of them fail, or all.
-/

namespace Testbed.Rehearsal

structure Rule where
  pattern : String
  error : String
  /-- How many requests fail. A negative number stands for all. -/
  times : Int := -1
  /-- How many requests pass before. -/
  skip : Nat := 0
  deriving DecidableEq, Repr

def containsText (pattern : List Char) : List Char → Bool
  | [] => pattern.isEmpty
  | c :: rest => pattern.isPrefixOf (c :: rest) || containsText pattern rest

/-- The rule after a request to which it applies, and whether it makes the request fail. -/
def Rule.apply (r : Rule) : Bool × Rule :=
  if 0 < r.skip then (false, { r with skip := r.skip - 1 })
  else if r.times ≠ 0 then (true, { r with times := r.times - 1 })
  else (false, r)

/-- The error of the first rule that makes a request fail, and the rules after it. -/
def applyRules (request : String) : List Rule → Option String × List Rule
  | [] => (none, [])
  | r :: rest =>
    let (fails, next) :=
      if containsText r.pattern.toList request.toList then r.apply else (false, r)
    if fails then (some r.error, next :: rest)
    else
      let (error, rest) := applyRules request rest
      (error, next :: rest)

end Testbed.Rehearsal
