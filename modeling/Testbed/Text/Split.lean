/-!
# Splitting and joining

`splitOn` cuts a list at every occurrence of a separator and `join` puts the pieces together
again. `cut?` cuts at the first occurrence only.
-/

namespace Testbed.Text

variable {α : Type} [DecidableEq α]

/-- The pieces between the occurrences of `sep`. There is always one more piece than there are
separators, so the empty list has one empty piece. -/
def splitOn (sep : α) (s : List α) : List (List α) :=
  let step (c : α) (pieces : List (List α)) :=
    if c = sep then [] :: pieces
    else match pieces with
      | [] => [[c]]
      | piece :: rest => (c :: piece) :: rest
  s.foldr step [[]]

def join (sep : α) : List (List α) → List α
  | [] => []
  | [piece] => piece
  | piece :: rest => piece ++ sep :: join sep rest

theorem splitOn_cons (sep c : α) (s : List α) :
    splitOn sep (c :: s) =
      if c = sep then [] :: splitOn sep s
      else match splitOn sep s with
        | [] => [[c]]
        | piece :: rest => (c :: piece) :: rest := rfl

theorem splitOn_ne_nil (sep : α) (s : List α) : splitOn sep s ≠ [] := by
  cases s with
  | nil => simp [splitOn]
  | cons c s =>
    rw [splitOn_cons]
    split
    · simp
    · split <;> simp

theorem join_splitOn (sep : α) (s : List α) : join sep (splitOn sep s) = s := by
  induction s with
  | nil => rfl
  | cons c s ih =>
    rw [splitOn_cons]
    split
    · rename_i hc
      cases h : splitOn sep s with
      | nil => exact absurd h (splitOn_ne_nil sep s)
      | cons piece rest => rw [h] at ih; simp [join, hc, ih]
    · cases h : splitOn sep s with
      | nil => exact absurd h (splitOn_ne_nil sep s)
      | cons piece rest =>
        rw [h] at ih
        cases rest with
        | nil => simpa [join] using ih
        | cons next rest => simpa [join] using ih

/-- The pieces that `sep` ends, and what follows the last one if that is not empty. -/
def terminatedBy (sep : α) (s : List α) : List (List α) :=
  let pieces := splitOn sep s
  if pieces.getLast? = some [] then pieces.dropLast else pieces

/-- The parts before and after the first `sep`, or `none` if it does not occur. -/
def cut? (sep : α) : List α → Option (List α × List α)
  | [] => none
  | c :: s => if c = sep then some ([], s) else (cut? sep s).map fun (a, b) => (c :: a, b)

/-- What follows `start` in a list that begins with it. -/
def after? : (start s : List α) → Option (List α)
  | [], s => some s
  | _ :: _, [] => none
  | a :: start, c :: s => if a = c then after? start s else none

def substitute (old new : α) (s : List α) : List α :=
  s.map fun c => if c = old then new else c

end Testbed.Text
