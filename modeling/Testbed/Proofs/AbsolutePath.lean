import Testbed.Path
import Testbed.Proofs.Splitting

/-!
# Paths that are put together and made absolute

A path is where it starts and the segments that follow. Joining adds segments, and making a path
absolute writes down the start and the segments with single slashes. So both can be done in either
order, and two texts with the same start and the same segments lead to the same absolute path.
-/

namespace Testbed.Path

open Text

/-! ## Segments -/

/-- The text can stand between two slashes, and it has a meaning there. -/
structure IsSegment (s : String) : Prop where
  slashless : '/' ∉ s.toList
  filled : s ≠ ""
  moving : s ≠ "."

theorem isAbsolute_iff {path : String} : isAbsolute path = true ↔ ∃ rest, path = "/" ++ rest := by
  rw [isAbsolute, decide_eq_true_eq, List.head?_eq_some_iff]
  constructor
  · rintro ⟨rest, text⟩
    exact ⟨String.ofList rest, String.toList_injective (by simpa using text)⟩
  · rintro ⟨rest, rfl⟩
    exact ⟨rest.toList, by simp⟩

theorem IsSegment.relative {s : String} (h : IsSegment s) : isAbsolute s = false := by
  by_cases absolute : isAbsolute s = true
  · obtain ⟨rest, rfl⟩ := isAbsolute_iff.mp absolute
    exact absurd (by simp) h.slashless
  · simpa using absolute

theorem segments_append_slash (front back : String) :
    segments (front ++ "/" ++ back) = segments front ++ segments back := by
  have whole : (front ++ "/" ++ back).toList = front.toList ++ '/' :: back.toList := by simp
  rw [segments, whole, splitOn_append_sep, List.filter_append, List.map_append]
  rfl

theorem segments_empty : segments "" = [] :=
  rfl

theorem segments_of_isSegment {s : String} (h : IsSegment s) : segments s = [s] := by
  have filled : s.toList ≠ [] := fun empty => h.filled (String.toList_injective empty)
  have moving : s.toList ≠ ['.'] := fun dot => h.moving (String.toList_injective dot)
  rw [segments, splitOn_of_not_mem h.slashless]
  simp [filled, moving, String.ofList_toList]

theorem isSegment_of_mem {path s : String} (h : s ∈ segments path) : IsSegment s := by
  obtain ⟨piece, mem, rfl⟩ := List.mem_map.mp h
  obtain ⟨among, kept⟩ := List.mem_filter.mp mem
  obtain ⟨filled, moving⟩ : piece ≠ [] ∧ piece ≠ ['.'] := by simpa using kept
  refine ⟨by simpa using not_mem_of_mem_splitOn among, fun empty => filled ?_, fun dot => moving ?_⟩
  · simpa using congrArg String.toList empty
  · simpa using congrArg String.toList dot

/-! ## Slashes at the start -/

def leadingSlashes (path : String) : Nat :=
  (path.toList.takeWhile (· = '/')).length

theorem isAbsolute_eq (path : String) : isAbsolute path = decide (0 < leadingSlashes path) := by
  unfold isAbsolute leadingSlashes
  cases path.toList with
  | nil => rfl
  | cons c rest => by_cases slash : c = '/' <;> simp [slash]

/-- Two slashes at the start are something of their own. -/
theorem root_eq (path : String) : root path = if leadingSlashes path = 2 then "//" else "/" := by
  unfold root leadingSlashes
  split
  · rename_i text
    rw [text]
    rfl
  · rename_i c rest text
    by_cases slash : c = '/' <;> simp [text, slash]
  · rename_i single other
    rw [if_neg]
    intro two
    cases text : path.toList with
    | nil => simp [text] at two
    | cons a rest =>
      by_cases first : a = '/'
      · cases rest with
        | nil => simp [text, first] at two
        | cons b rest =>
          by_cases second : b = '/'
          · cases rest with
            | nil => exact single (by rw [text, first, second])
            | cons c rest => exact other c rest (by rw [text, first, second])
          · simp [text, first, second] at two
      · simp [text, first] at two

theorem leadingSlashes_of_relative {path : String} (relative : isAbsolute path = false) :
    leadingSlashes path = 0 := by
  rw [isAbsolute_eq] at relative
  simpa using relative

/-- What comes behind something other than a slash does not matter. -/
theorem leadingSlashes_append {front : String} (part : ∃ c ∈ front.toList, c ≠ '/')
    (back : String) : leadingSlashes (front ++ back) = leadingSlashes front := by
  obtain ⟨c, mem, other⟩ := part
  have stops : (front.toList.takeWhile (· = '/')).length ≠ front.toList.length := by
    intro whole
    have all := List.all_takeWhile (p := (· = '/')) (l := front.toList)
    rw [(List.takeWhile_prefix _).eq_of_length whole] at all
    exact other (by simpa using List.all_eq_true.mp all c mem)
  rw [leadingSlashes, String.toList_append, List.takeWhile_append, if_neg stops]
  rfl

theorem leadingSlashes_append_relative (front : String) {back : String}
    (relative : isAbsolute back = false) :
    leadingSlashes (front ++ back) = leadingSlashes front := by
  have none : back.toList.takeWhile (· = '/') = [] :=
    List.length_eq_zero_iff.mp (leadingSlashes_of_relative relative)
  rw [leadingSlashes, String.toList_append, List.takeWhile_append, none, List.append_nil]
  split
  · rename_i whole
    rw [leadingSlashes, whole]
  · rfl

/-! ## Joining -/

/-- A part is written behind the slash at the end of the base. -/
theorem join_eq_append (base : String) {part : String} (relative : isAbsolute part = false) :
    join base part = join base "" ++ part := by
  have empty : isAbsolute "" = false := rfl
  unfold join
  rw [relative, empty]
  simp only [Bool.false_eq_true, if_false]
  split
  · exact String.empty_append.symm
  · rw [String.append_empty]
  · rw [String.append_empty]

/-- A slash is put at the end of a base where there is none. -/
theorem join_empty_cases (base : String) :
    (base = "" ∧ join base "" = "") ∨
    (∃ front, base = front ++ "/" ∧ join base "" = base) ∨
    ∃ c, base.toList.getLast? = some c ∧ c ≠ '/' ∧ join base "" = base ++ "/" := by
  have empty : isAbsolute "" = false := rfl
  unfold join
  rw [empty]
  simp only [Bool.false_eq_true, if_false, String.append_empty]
  split
  · rename_i none
    exact .inl ⟨String.toList_injective (List.getLast?_eq_none_iff.mp none), rfl⟩
  · rename_i last
    obtain ⟨front, text⟩ := List.getLast?_eq_some_iff.mp last
    refine .inr (.inl ⟨String.ofList front, String.toList_injective ?_, rfl⟩)
    simpa using text
  · rename_i c other last
    refine .inr (.inr ⟨c, last, ?_, rfl⟩)
    rintro rfl
    exact other rfl

theorem join_slash (front : String) : join (front ++ "/") "" = front ++ "/" := by
  have last : (front ++ "/").toList.getLast? = some '/' := by simp
  have empty : isAbsolute "" = false := rfl
  rw [join, empty, last]
  exact String.append_empty

theorem join_empty_empty (base : String) : join (join base "") "" = join base "" := by
  rcases join_empty_cases base with ⟨rfl, same⟩ | ⟨front, rfl, same⟩ | ⟨_, -, -, same⟩
  · rw [same, same]
  · rw [same, same]
  · rw [same, join_slash]

section Part

variable (base : String) {part : String} (relative : isAbsolute part = false)

include relative

/-- A slash at the end of the base makes no difference. -/
theorem join_join_empty : join (join base "") part = join base part := by
  rw [join_eq_append _ relative, join_empty_empty, ← join_eq_append _ relative]

theorem segments_join : segments (join base part) = segments base ++ segments part := by
  rw [join_eq_append _ relative]
  rcases join_empty_cases base with ⟨rfl, same⟩ | ⟨front, rfl, same⟩ | ⟨_, -, -, same⟩
  · rw [same, String.empty_append, segments_empty, List.nil_append]
  · have ended := segments_append_slash front ""
    rw [String.append_empty, segments_empty, List.append_nil] at ended
    rw [same, segments_append_slash, ended]
  · rw [same, segments_append_slash]

theorem leadingSlashes_join : leadingSlashes (join base part) = leadingSlashes base := by
  rw [join_eq_append _ relative, leadingSlashes_append_relative _ relative]
  rcases join_empty_cases base with ⟨rfl, same⟩ | ⟨front, rfl, same⟩ | ⟨c, last, other, same⟩
  · rw [same]
  · rw [same]
  · rw [same, leadingSlashes_append ⟨c, List.mem_of_getLast? last, other⟩]

theorem getLast?_join (filled : part ≠ "") :
    (join base part).toList.getLast? = part.toList.getLast? := by
  have last : part.toList.getLast?.isSome = true := by
    rw [List.getLast?_isSome]
    exact fun empty => filled (String.toList_injective empty)
  rw [join_eq_append _ relative, String.toList_append, List.getLast?_append,
    Option.or_of_isSome last]

theorem join_ne_empty (filled : part ≠ "") : join base part ≠ "" := by
  intro empty
  have last := getLast?_join base relative filled
  rw [empty] at last
  exact filled (String.toList_injective (List.getLast?_eq_none_iff.mp last.symm))

theorem isAbsolute_join : isAbsolute (join base part) = isAbsolute base := by
  rw [isAbsolute_eq, isAbsolute_eq, leadingSlashes_join base relative]

end Part

section Fold

variable {parts : List String} (meaningful : ∀ s ∈ parts, IsSegment s)

include meaningful

theorem segments_foldl_join (start : String) :
    segments (parts.foldl join start) = segments start ++ parts := by
  induction parts generalizing start with
  | nil => exact (List.append_nil _).symm
  | cons s parts ih =>
    obtain ⟨first, others⟩ := List.forall_mem_cons.mp meaningful
    rw [List.foldl_cons, ih others, segments_join _ first.relative, segments_of_isSegment first,
      List.append_assoc, List.singleton_append]

theorem leadingSlashes_foldl_join (start : String) :
    leadingSlashes (parts.foldl join start) = leadingSlashes start := by
  induction parts generalizing start with
  | nil => rfl
  | cons s parts ih =>
    obtain ⟨first, others⟩ := List.forall_mem_cons.mp meaningful
    rw [List.foldl_cons, ih others, leadingSlashes_join _ first.relative]

end Fold

/-! ## Where a path leads -/

def start (workingDirectory path : String) : String :=
  if isAbsolute path then root path else workingDirectory

/-- The path seen from the working directory, without a slash at its end. -/
def plain (workingDirectory path : String) : String :=
  (segments path).foldl join (start workingDirectory path)

theorem absolute_eq (workingDirectory path : String) : absolute workingDirectory path =
    if path.toList.getLast? = some '/' then join (plain workingDirectory path) ""
    else plain workingDirectory path :=
  rfl

section Place

variable (workingDirectory : String) {path other : String}

/-- Slashes at the start and segments are all that counts. -/
theorem plain_congr (slashes : leadingSlashes path = leadingSlashes other)
    (parts : segments path = segments other) :
    plain workingDirectory path = plain workingDirectory other := by
  rw [plain, plain, start, start, isAbsolute_eq, isAbsolute_eq, root_eq, root_eq, slashes, parts]

theorem plain_join (base : String) {part : String} (relative : isAbsolute part = false) :
    plain workingDirectory (join base part) =
      (segments part).foldl join (plain workingDirectory base) := by
  rw [plain, plain, start, start, isAbsolute_eq, isAbsolute_eq, root_eq, root_eq,
    leadingSlashes_join base relative, segments_join base relative, List.foldl_append]

theorem plain_join_empty (base : String) :
    plain workingDirectory (join base "") = plain workingDirectory base :=
  plain_join workingDirectory base rfl

theorem segments_absolute (path : String) :
    segments (absolute workingDirectory path) = segments (plain workingDirectory path) := by
  rw [absolute_eq]
  split
  · rw [segments_join _ rfl, segments_empty, List.append_nil]
  · rfl

/-- The absolute form of a join: its segments follow those of the base. -/
theorem absolute_join (base : String) {part : String} (relative : isAbsolute part = false)
    (filled : part ≠ "") : absolute workingDirectory (join base part) =
      if part.toList.getLast? = some '/' then
        join ((segments part).foldl join (plain workingDirectory base)) ""
      else (segments part).foldl join (plain workingDirectory base) := by
  rw [absolute_eq, getLast?_join base relative filled, plain_join workingDirectory base relative]

theorem absolute_join_segment (base : String) {s : String} (h : IsSegment s) :
    absolute workingDirectory (join base s) = join (absolute workingDirectory base) s := by
  have last : s.toList.getLast? ≠ some '/' := fun slash =>
    h.slashless (List.mem_of_getLast? slash)
  rw [absolute_join _ _ h.relative h.filled, if_neg last, segments_of_isSegment h, absolute_eq]
  split
  · exact (join_join_empty _ h.relative).symm
  · rfl

end Place

/-! ## The absolute path that a system makes -/

section Resolve

variable {path : String}

/-- An absolute path looks the same from everywhere. -/
theorem absolute_of_isAbsolute (h : isAbsolute path = true) (directory other : String) :
    absolute directory path = absolute other path := by
  rw [absolute_eq, absolute_eq, plain, plain, start, start, if_pos h, if_pos h]

theorem resolve_of_isAbsolute (h : isAbsolute path = true) (reading : Except SystemFault String)
    (directory : String) : resolve reading path = .ok (absolute directory path) := by
  have filled : path.isEmpty = false := by
    obtain ⟨rest, rfl⟩ := isAbsolute_iff.mp h
    simp [← String.toList_inj]
  rw [resolve, filled, if_neg Bool.false_ne_true, if_pos h, absolute_of_isAbsolute h]

theorem resolve_ok (filled : path ≠ "") (directory : String) :
    resolve (.ok directory) path = .ok (absolute directory path) := by
  by_cases h : isAbsolute path = true
  · exact resolve_of_isAbsolute h _ directory
  · rw [resolve, if_neg (by simpa using filled), if_neg h]
    rfl

/-- A relative path has no absolute form as long as the working directory cannot be told. -/
theorem resolve_error (filled : path ≠ "") (relative : isAbsolute path = false)
    (reason : SystemFault) : resolve (.error reason) path = .error reason := by
  rw [resolve, if_neg (by simpa using filled), relative, if_neg Bool.false_ne_true]
  rfl

end Resolve

/-- An absolute path without anything that has no meaning, which is how a system gives its working
directory. -/
structure IsPlace (path : String) : Prop where
  absolute : isAbsolute path = true
  written : (segments path).foldl join (root path) = path

theorem IsPlace.plain {path : String} (h : IsPlace path) (workingDirectory : String) :
    plain workingDirectory path = path := by
  rw [Path.plain, start, if_pos h.absolute, h.written]

theorem isPlace_root (path : String) : IsPlace (root path) := by
  unfold root
  split
  · exact ⟨rfl, by decide⟩
  · split
    · exact ⟨rfl, by decide⟩
    · exact ⟨rfl, by decide⟩
  · exact ⟨rfl, by decide⟩

section Working

variable {workingDirectory : String} (home : IsPlace workingDirectory)

include home

theorem isPlace_start (path : String) : IsPlace (start workingDirectory path) := by
  unfold start
  split
  · exact isPlace_root path
  · exact home

theorem isPlace_plain (path : String) : IsPlace (plain workingDirectory path) := by
  have meaningful : ∀ s ∈ segments path, IsSegment s := fun _ => isSegment_of_mem
  have place := isPlace_start home path
  have slashes := leadingSlashes_foldl_join meaningful (start workingDirectory path)
  refine ⟨?_, ?_⟩
  · rw [isAbsolute_eq, Path.plain, slashes, ← isAbsolute_eq]
    exact place.absolute
  · rw [root_eq, Path.plain, slashes, ← root_eq, segments_foldl_join meaningful, List.foldl_append,
      place.written]

/-- An absolute form stays as it is, wherever it is seen from. -/
theorem plain_absolute (path other : String) :
    plain other (absolute workingDirectory path) = plain workingDirectory path := by
  rw [absolute_eq]
  split
  · rw [plain_join_empty, (isPlace_plain home path).plain]
  · exact (isPlace_plain home path).plain other

theorem absolute_absolute (path other : String) :
    absolute other (absolute workingDirectory path) = absolute workingDirectory path := by
  have place := isPlace_plain home path
  rw [absolute_eq other, plain_absolute home, absolute_eq workingDirectory]
  rcases join_empty_cases (plain workingDirectory path) with
    ⟨empty, -⟩ | ⟨front, ended, same⟩ | ⟨c, last, unslashed, same⟩
  · have none := place.absolute
    rw [empty] at none
    cases none
  · rw [same, ite_self, ite_self]
  · split
    · rw [if_pos (by rw [same]; simp)]
    · rw [if_neg (by simpa [last] using unslashed)]

theorem isAbsolute_absolute (path : String) :
    isAbsolute (absolute workingDirectory path) = true := by
  rw [absolute_eq]
  split
  · rw [isAbsolute_eq, leadingSlashes_join _ rfl, ← isAbsolute_eq]
    exact (isPlace_plain home path).absolute
  · exact (isPlace_plain home path).absolute

end Working

end Testbed.Path
