/-!
# Results of what can fail

Two steps in a row succeed if the first does, and the second does with what comes of the first. A
list is read if each of its members is.
-/

namespace Testbed

variable {ε α β : Type}

theorem eq_ok_of_toOption {r : Except ε α} {a : α} (h : r.toOption = some a) : r = .ok a := by
  cases r with
  | ok b => exact congrArg _ (Option.some.inj h)
  | error => cases h

theorem bind_eq_ok_iff {r : Except ε α} {f : α → Except ε β} {b : β} :
    r >>= f = .ok b ↔ ∃ a, r = .ok a ∧ f a = .ok b := by
  constructor
  · intro h
    cases r with
    | error e => cases h
    | ok a => exact ⟨a, rfl, h⟩
  · rintro ⟨a, rfl, h⟩
    exact h

theorem mapM_eq_some_iff {read : α → Option β} {texts : List α} {values : List β} :
    texts.mapM read = some values ↔ texts.map read = values.map some := by
  induction texts generalizing values with
  | nil => cases values <;> simp
  | cons text texts ih =>
    rw [List.mapM_cons, Option.bind_eq_bind, Option.bind_eq_some_iff]
    constructor
    · rintro ⟨value, first, rest⟩
      obtain ⟨others, more, same⟩ := Option.bind_eq_some_iff.mp rest
      obtain rfl : value :: others = values := Option.some.inj same
      simp [first, ih.mp more]
    · intro same
      cases values with
      | nil => cases same
      | cons value values =>
        obtain ⟨first, others⟩ := List.cons.inj same
        exact ⟨value, first, Option.bind_eq_some_iff.mpr ⟨values, ih.mpr others, rfl⟩⟩

end Testbed
