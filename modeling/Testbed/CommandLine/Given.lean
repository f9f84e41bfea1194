import Testbed.CommandLine.OptionName

/-!
# Options with their values

What is given is a value for each option or none. Where two sources are joined, the first one
wins.
-/

namespace Testbed.CommandLine

/-- A value for each option that has one. -/
def Given : Type := (o : OptionName) → Option o.Value

namespace Given

def empty : Given := fun _ => none

def put (g : Given) (o : OptionName) (value : o.Value) : Given := fun p =>
  if h : o = p then some (h ▸ value) else g p

def orElse (first second : Given) : Given := fun o =>
  match first o with
  | some value => some value
  | none => second o

def has (g : Given) (o : OptionName) : Bool :=
  (g o).isSome

@[simp] theorem put_same (g : Given) (o : OptionName) (value : o.Value) : g.put o value o = some value := by
  simp [put]

theorem put_other (g : Given) {o p : OptionName} (value : o.Value) (h : o ≠ p) :
    g.put o value p = g p := by
  simp [put, h]

theorem orElse_empty (g : Given) : g.orElse empty = g := by
  funext o
  cases h : g o <;> simp [orElse, empty, h]

theorem empty_orElse (g : Given) : empty.orElse g = g := rfl

end Given

end Testbed.CommandLine
