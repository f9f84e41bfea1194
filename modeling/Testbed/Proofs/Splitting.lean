import Testbed.Text.Split

/-!
# Texts that are cut apart

A list that is cut at every separator has one piece more than it has separators. So pieces that were
joined come apart again if and only if no separator stands in any of them. Every list is lines with
their ends and something behind them. A cut at the first separator is known by having none in front
of it. A run goes up to what does not belong to it.
-/

namespace Testbed.Text

variable {α : Type} [DecidableEq α] {sep : α}

theorem cut?_of_not_mem {s : List α} (h : sep ∉ s) : cut? sep s = none := by
  induction s with
  | nil => rfl
  | cons c s ih =>
    rw [cut?, if_neg (List.ne_of_not_mem_cons h).symm, ih (List.not_mem_of_not_mem_cons h)]
    rfl

theorem cut?_append {a : List α} (h : sep ∉ a) (b : List α) :
    cut? sep (a ++ sep :: b) = some (a, b) := by
  induction a with
  | nil => simp [cut?]
  | cons c a ih =>
    rw [List.cons_append, cut?, if_neg (List.ne_of_not_mem_cons h).symm,
      ih (List.not_mem_of_not_mem_cons h)]
    rfl

theorem eq_append_of_cut? {s a b : List α} (h : cut? sep s = some (a, b)) : s = a ++ sep :: b := by
  induction s generalizing a with
  | nil => cases h
  | cons c s ih =>
    rw [cut?] at h
    split at h
    · rename_i same
      obtain ⟨rfl, rfl⟩ := Prod.mk.inj (Option.some.inj h)
      rw [same, List.nil_append]
    · obtain ⟨⟨front, back⟩, cut, pair⟩ := Option.map_eq_some_iff.mp h
      obtain ⟨rfl, rfl⟩ := Prod.mk.inj pair
      rw [ih cut, List.cons_append]

theorem not_mem_of_cut? {s a b : List α} (h : cut? sep s = some (a, b)) : sep ∉ a := by
  have mem : sep ∈ s := by simp [eq_append_of_cut? h]
  obtain ⟨front, back, split, first⟩ := List.eq_append_cons_of_mem mem
  rw [split, cut?_append first] at h
  obtain ⟨rfl, -⟩ := Prod.mk.inj (Option.some.inj h)
  exact first

theorem cut?_eq_none_iff {s : List α} : cut? sep s = none ↔ sep ∉ s := by
  refine ⟨fun uncut mem => ?_, cut?_of_not_mem⟩
  obtain ⟨a, b, split, first⟩ := List.eq_append_cons_of_mem mem
  rw [split, cut?_append first] at uncut
  cases uncut

/-- What follows the first separator. -/
theorem map_snd_cut? (sep : α) (s : List α) :
    (cut? sep s).map Prod.snd = (s.dropWhile (· ≠ sep)).tail? := by
  induction s with
  | nil => rfl
  | cons c s ih =>
    by_cases same : c = sep
    · simp [cut?, same]
    · simpa [cut?, same, Function.comp_def] using ih

theorem splitOn_append_sep (sep : α) (a b : List α) :
    splitOn sep (a ++ sep :: b) = splitOn sep a ++ splitOn sep b := by
  induction a with
  | nil => simp [splitOn_cons, show splitOn sep [] = [[]] from rfl]
  | cons c a ih =>
    rw [List.cons_append, splitOn_cons, splitOn_cons, ih]
    split
    · rfl
    · cases h : splitOn sep a with
      | nil => exact absurd h (splitOn_ne_nil sep a)
      | cons piece rest => rfl

theorem splitOn_of_not_mem {s : List α} (h : sep ∉ s) : splitOn sep s = [s] := by
  induction s with
  | nil => rfl
  | cons c s ih =>
    rw [splitOn_cons, if_neg (List.ne_of_not_mem_cons h).symm, ih (List.not_mem_of_not_mem_cons h)]

theorem length_splitOn (sep : α) (s : List α) : (splitOn sep s).length = s.count sep + 1 := by
  induction s with
  | nil => rfl
  | cons c s ih =>
    rw [splitOn_cons, List.count_cons]
    by_cases same : c = sep
    · simp [same, ih]
    · cases h : splitOn sep s with
      | nil => exact absurd h (splitOn_ne_nil sep s)
      | cons piece rest => rw [h] at ih; simpa [same] using ih

omit [DecidableEq α] in
theorem join_cons (sep : α) (piece : List α) (rest : List (List α)) :
    join sep (piece :: rest) = piece ++ rest.flatMap (sep :: ·) := by
  induction rest generalizing piece with
  | nil => simp [join]
  | cons next rest ih =>
    change piece ++ sep :: join sep (next :: rest) = _
    rw [ih next, List.flatMap_cons, List.cons_append]

omit [DecidableEq α] in
theorem join_append (sep : α) {first second : List (List α)} (some : first ≠ [])
    (more : second ≠ []) :
    join sep (first ++ second) = join sep first ++ sep :: join sep second := by
  obtain ⟨piece, rest, rfl⟩ := List.exists_cons_of_ne_nil some
  obtain ⟨next, others, rfl⟩ := List.exists_cons_of_ne_nil more
  rw [List.cons_append, join_cons, join_cons, join_cons, List.flatMap_append, List.flatMap_cons]
  simp

/-- What was joined comes apart at the separators between the pieces and at those within them. -/
theorem splitOn_join (sep : α) {pieces : List (List α)} (some : pieces ≠ []) :
    splitOn sep (join sep pieces) = pieces.flatMap (splitOn sep) := by
  induction pieces with
  | nil => exact absurd rfl some
  | cons piece rest ih =>
    cases rest with
    | nil => simp [join]
    | cons next rest =>
      change splitOn sep (piece ++ sep :: join sep (next :: rest)) = _
      rw [splitOn_append_sep, ih (List.cons_ne_nil next rest)]
      rfl

theorem flatMap_splitOn_of_clean {pieces : List (List α)} (clean : ∀ piece ∈ pieces, sep ∉ piece) :
    pieces.flatMap (splitOn sep) = pieces := by
  induction pieces with
  | nil => rfl
  | cons piece rest ih =>
    obtain ⟨first, others⟩ := List.forall_mem_cons.mp clean
    rw [List.flatMap_cons, splitOn_of_not_mem first, ih others, List.singleton_append]

theorem length_flatMap_splitOn (sep : α) (pieces : List (List α)) :
    (pieces.flatMap (splitOn sep)).length = pieces.length + pieces.flatten.count sep := by
  induction pieces with
  | nil => rfl
  | cons piece rest ih =>
    rw [List.flatMap_cons, List.length_append, length_splitOn, ih, List.flatten_cons,
      List.count_append, List.length_cons]
    omega

/-- There are as many pieces as before if and only if none of them was cut. -/
theorem length_flatMap_splitOn_iff {pieces : List (List α)} :
    (pieces.flatMap (splitOn sep)).length = pieces.length ↔ ∀ piece ∈ pieces, sep ∉ piece := by
  rw [length_flatMap_splitOn, Nat.add_eq_left, List.count_eq_zero, List.mem_flatten]
  simp only [not_exists, not_and]

theorem terminatedBy_nil (sep : α) : terminatedBy sep ([] : List α) = [] := rfl

/-- What stands in front of a separator is cut apart from what follows. -/
theorem terminatedBy_append_sep (sep : α) (front back : List α) :
    terminatedBy sep (front ++ sep :: back) = splitOn sep front ++ terminatedBy sep back := by
  have last : (splitOn sep front ++ splitOn sep back).getLast? = (splitOn sep back).getLast? := by
    rw [List.getLast?_append, Option.or_of_isSome]
    simpa using splitOn_ne_nil sep back
  rw [terminatedBy, terminatedBy, splitOn_append_sep, last]
  split
  · rw [List.dropLast_append_of_ne_nil (splitOn_ne_nil sep back)]
  · rfl

/-- Lines that are written with their ends come apart where separators stand in them. -/
theorem terminatedBy_append (sep : α) (lines : List (List α)) (rest : List α) :
    terminatedBy sep (lines.flatMap (· ++ [sep]) ++ rest) =
      lines.flatMap (splitOn sep) ++ terminatedBy sep rest := by
  induction lines with
  | nil => rfl
  | cons line lines ih =>
    rw [List.flatMap_cons, List.append_assoc, List.append_assoc, List.singleton_append,
      terminatedBy_append_sep, ih, List.flatMap_cons, List.append_assoc]

theorem terminatedBy_of_not_mem {rest : List α} (h : sep ∉ rest) :
    terminatedBy sep rest = if rest = [] then [] else [rest] := by
  rw [terminatedBy, splitOn_of_not_mem h]
  by_cases empty : rest = [] <;> simp [empty]

/-- Lines that are written with their ends are read back as they are, and so is what is behind. -/
theorem terminatedBy_clean {lines : List (List α)} {rest : List α}
    (clean : ∀ line ∈ lines, sep ∉ line) (last : sep ∉ rest) :
    terminatedBy sep (lines.flatMap (· ++ [sep]) ++ rest) =
      lines ++ if rest = [] then [] else [rest] := by
  rw [terminatedBy_append, flatMap_splitOn_of_clean clean, terminatedBy_of_not_mem last]

theorem terminatedBy_flatMap {lines : List (List α)} (clean : ∀ line ∈ lines, sep ∉ line) :
    terminatedBy sep (lines.flatMap fun line => line ++ [sep]) = lines := by
  have whole := terminatedBy_clean clean (List.not_mem_nil (a := sep))
  rwa [List.append_nil, if_pos rfl, List.append_nil] at whole

/-- Every list is lines with their ends, and something behind them. -/
theorem exists_lines (sep : α) (s : List α) : ∃ (lines : List (List α)) (rest : List α),
    (∀ line ∈ lines, sep ∉ line) ∧ sep ∉ rest ∧ s = lines.flatMap (· ++ [sep]) ++ rest := by
  induction s with
  | nil => exact ⟨[], [], by simp, by simp, rfl⟩
  | cons c s ih =>
    obtain ⟨lines, rest, clean, last, rfl⟩ := ih
    by_cases same : c = sep
    · subst same
      refine ⟨[] :: lines, rest, List.forall_mem_cons.mpr ⟨by simp, clean⟩, last, rfl⟩
    · cases lines with
      | nil => exact ⟨[], c :: rest, clean, by simpa [Ne.symm same] using last, rfl⟩
      | cons line lines =>
        obtain ⟨first, others⟩ := List.forall_mem_cons.mp clean
        refine ⟨(c :: line) :: lines, rest, List.forall_mem_cons.mpr ⟨?_, others⟩, last, rfl⟩
        simpa [Ne.symm same] using first

/-- No piece has a separator. -/
theorem not_mem_of_mem_splitOn {piece s : List α} (h : piece ∈ splitOn sep s) : sep ∉ piece := by
  obtain ⟨lines, rest, clean, last, rfl⟩ := exists_lines sep s
  induction lines with
  | nil =>
    rw [List.flatMap_nil, List.nil_append, splitOn_of_not_mem last] at h
    exact List.mem_singleton.mp h ▸ last
  | cons line lines ih =>
    obtain ⟨first, others⟩ := List.forall_mem_cons.mp clean
    rw [List.flatMap_cons, List.append_assoc, List.append_assoc, List.singleton_append,
      splitOn_append_sep, splitOn_of_not_mem first] at h
    rcases List.mem_append.mp h with here | there
    · exact List.mem_singleton.mp here ▸ first
    · exact ih others there

section Runs

variable {β : Type} {keep : β → Bool} {front rest : List β}

/-- A run goes up to the first element that does not belong to it. -/
theorem takeWhile_run (all : ∀ c ∈ front, keep c = true)
    (ends : ∀ c, rest.head? = some c → keep c = false) :
    (front ++ rest).takeWhile keep = front := by
  rw [List.takeWhile_append_of_pos all]
  cases rest with
  | nil => simp
  | cons c rest => simp [ends c rfl]

theorem dropWhile_run (all : ∀ c ∈ front, keep c = true)
    (ends : ∀ c, rest.head? = some c → keep c = false) : (front ++ rest).dropWhile keep = rest := by
  rw [List.dropWhile_append_of_pos all]
  cases rest with
  | nil => rfl
  | cons c rest => simp [ends c rfl]

end Runs

theorem after?_append (start s : List α) : after? start (start ++ s) = some s := by
  induction start with
  | nil => rfl
  | cons a start ih => simp [after?, ih]

theorem after?_eq_some_iff {start s rest : List α} :
    after? start s = some rest ↔ s = start ++ rest := by
  constructor
  · intro h
    induction start generalizing s with
    | nil => exact Option.some.inj h
    | cons a start ih =>
      cases s with
      | nil => cases h
      | cons c s =>
        rw [after?] at h
        split at h
        · rename_i same
          rw [same, ih h, List.cons_append]
        · cases h
  · rintro rfl
    exact after?_append start rest

end Testbed.Text
