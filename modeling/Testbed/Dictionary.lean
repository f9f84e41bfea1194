/-!
# Dictionaries

A finite map from names to texts, kept in strictly ascending order of the names. Putting an
entry under a name that is there already replaces it.
-/

namespace Testbed

def putEntry (key value : String) : List (String × String) → List (String × String)
  | [] => [(key, value)]
  | (k, v) :: rest =>
    if key < k then (key, value) :: (k, v) :: rest
    else if key = k then (key, value) :: rest
    else (k, v) :: putEntry key value rest

theorem mem_putEntry {key value : String} {entries : List (String × String)}
    {e : String × String} (h : e ∈ putEntry key value entries) :
    e = (key, value) ∨ e ∈ entries := by
  induction entries with
  | nil => simpa [putEntry] using h
  | cons head rest ih =>
    obtain ⟨k, v⟩ := head
    simp only [putEntry] at h
    split at h
    · simpa using h
    · split at h
      · rcases List.mem_cons.1 h with h | h
        · exact Or.inl h
        · exact Or.inr (List.mem_cons_of_mem _ h)
      · rcases List.mem_cons.1 h with h | h
        · exact Or.inr (h ▸ List.mem_cons_self)
        · exact (ih h).imp id (List.mem_cons_of_mem _)

/-- The order of names is that of their code points. -/
abbrev Ascending (entries : List (String × String)) : Prop :=
  entries.Pairwise fun a b => a.1 < b.1

theorem ascending_putEntry {key value : String} {entries : List (String × String)}
    (h : Ascending entries) : Ascending (putEntry key value entries) := by
  induction entries with
  | nil => simp [putEntry, Ascending]
  | cons head rest ih =>
    obtain ⟨k, v⟩ := head
    have hrest := List.pairwise_cons.1 h
    simp only [putEntry]
    split
    · rename_i hlt
      refine List.pairwise_cons.2 ⟨fun e he => ?_, h⟩
      rcases List.mem_cons.1 he with rfl | he
      · exact hlt
      · exact String.lt_trans hlt (hrest.1 e he)
    · split
      · rename_i heq
        subst heq
        exact List.pairwise_cons.2 ⟨hrest.1, hrest.2⟩
      · rename_i hnlt hne
        refine List.pairwise_cons.2 ⟨fun e he => ?_, ih hrest.2⟩
        rcases mem_putEntry he with rfl | he
        · exact (Std.lt_of_le_of_ne (Std.not_lt.1 hnlt) (Ne.symm hne))
        · exact hrest.1 e he

/-- A finite map from names to texts. -/
structure Dictionary where
  entries : List (String × String)
  ascending : Ascending entries

namespace Dictionary

def empty : Dictionary :=
  ⟨[], List.Pairwise.nil⟩

instance : Inhabited Dictionary := ⟨empty⟩

/-- Puts an entry, replacing one of the same name. -/
def put (d : Dictionary) (key value : String) : Dictionary :=
  ⟨putEntry key value d.entries, ascending_putEntry d.ascending⟩

/-- Puts the pairs one after the other, so that later ones win. -/
def putAll (d : Dictionary) (pairs : List (String × String)) : Dictionary :=
  pairs.foldl (fun d p => d.put p.1 p.2) d

def ofPairs (pairs : List (String × String)) : Dictionary :=
  empty.putAll pairs

def get? (d : Dictionary) (key : String) : Option String :=
  (d.entries.find? (·.1 = key)).map Prod.snd

end Dictionary

end Testbed
