import Mathlib.Logic.Basic
import Testbed.Proofs.LetterCase
import Testbed.Proofs.Masking

/-!
# What redaction leaves alone

A masked connection string has the segments of the plain one, in number and order, and differs only
in those that set a password. So two connection strings are masked to the same text if and only if
they differ in the values of their passwords alone. What is shown under a key depends on the lower
case of the key. Under the name of a secret only the empty value is told from the others, and a
value is changed under no other key than such a name and that of a connection string.
-/

namespace Testbed.Log

open Text

def segments (text : String) : List (List Char) :=
  splitOn ';' text.toList

def SetsPassword (segment : List Char) : Prop :=
  "password=".toList <+: segment

instance : DecidablePred SetsPassword :=
  fun segment => inferInstanceAs (Decidable ("password=".toList <+: segment))

theorem isPasswordSegment_iff {segment : List Char} :
    isPasswordSegment segment = true ↔ SetsPassword segment := by
  rw [isPasswordSegment, Option.isSome_iff_exists]
  constructor
  · rintro ⟨value, rest⟩
    exact ⟨value, (after?_eq_some_iff.mp rest).symm⟩
  · rintro ⟨value, whole⟩
    exact ⟨value, after?_eq_some_iff.mpr whole.symm⟩

theorem segments_injective {first second : String} (same : segments first = segments second) :
    first = second := by
  apply String.toList_injective
  rw [← join_splitOn ';' first.toList, ← join_splitOn ';' second.toList]
  exact congrArg (join ';') same

section Segments

variable {segment other : List Char}

theorem maskSegment_of_password (h : SetsPassword segment) :
    maskSegment segment = "password=REDACTED".toList := by
  rw [maskSegment, if_pos (isPasswordSegment_iff.mpr h)]

theorem maskSegment_of_other (h : ¬ SetsPassword segment) : maskSegment segment = segment := by
  rw [maskSegment, if_neg fun password => h (isPasswordSegment_iff.mp password)]

theorem setsPassword_maskSegment : SetsPassword (maskSegment segment) ↔ SetsPassword segment := by
  by_cases h : SetsPassword segment
  · rw [maskSegment_of_password h]
    exact iff_of_true ⟨"REDACTED".toList, rfl⟩ h
  · rw [maskSegment_of_other h]

theorem maskSegment_maskSegment : maskSegment (maskSegment segment) = maskSegment segment := by
  by_cases h : SetsPassword segment
  · rw [maskSegment_of_password (setsPassword_maskSegment.mpr h), maskSegment_of_password h]
  · rw [maskSegment_of_other h, maskSegment_of_other h]

theorem maskSegment_eq_iff : maskSegment segment = maskSegment other ↔
    (SetsPassword segment ↔ SetsPassword other) ∧ (¬ SetsPassword segment → segment = other) := by
  constructor
  · intro same
    have both : SetsPassword segment ↔ SetsPassword other := by
      rw [← setsPassword_maskSegment, same, setsPassword_maskSegment]
    refine ⟨both, ?_⟩
    intro h
    rwa [maskSegment_of_other h, maskSegment_of_other (both.not.mp h)] at same
  · rintro ⟨both, same⟩
    by_cases h : SetsPassword segment
    · rw [maskSegment_of_password h, maskSegment_of_password (both.mp h)]
    · rw [same h]

theorem not_mem_maskSegment (clean : ';' ∉ segment) : ';' ∉ maskSegment segment := by
  by_cases h : SetsPassword segment
  · rw [maskSegment_of_password h]
    decide
  · rwa [maskSegment_of_other h]

end Segments

/-- No masked segment has a semicolon, so they come apart as they were. -/
theorem segments_maskDsn (dsn : String) :
    segments (maskDsn dsn) = (segments dsn).map maskSegment := by
  have some : (segments dsn).map maskSegment ≠ [] := by
    intro none
    exact splitOn_ne_nil ';' dsn.toList (List.map_eq_nil_iff.mp none)
  have clean : ∀ piece ∈ (segments dsn).map maskSegment, ';' ∉ piece := by
    rw [List.forall_mem_map]
    intro segment mem
    exact not_mem_maskSegment (not_mem_of_mem_splitOn mem)
  calc segments (maskDsn dsn)
    _ = splitOn ';' (join ';' ((segments dsn).map maskSegment)) := by
      rw [segments, maskDsn, String.toList_ofList, segments]
    _ = (segments dsn).map maskSegment := by
      rw [splitOn_join ';' some, flatMap_splitOn_of_clean clean]

theorem eq_maskDsn_iff {dsn masked : String} :
    masked = maskDsn dsn ↔ segments masked = (segments dsn).map maskSegment := by
  rw [← segments_maskDsn]
  exact ⟨congrArg segments, segments_injective⟩

theorem maskDsn_maskDsn (dsn : String) : maskDsn (maskDsn dsn) = maskDsn dsn := by
  have again : maskSegment ∘ maskSegment = maskSegment := funext fun _ => maskSegment_maskSegment
  rw [eq_comm, eq_maskDsn_iff, segments_maskDsn, List.map_map, again]

/-- The second text has the passwords of the first one masked, and is the same in all else. -/
structure IsMasked (dsn masked : String) : Prop where
  count : (segments masked).length = (segments dsn).length
  kept : ∀ (i : Nat) segment, (segments dsn)[i]? = some segment → ¬ SetsPassword segment →
    (segments masked)[i]? = some segment
  hidden : ∀ (i : Nat) segment, (segments dsn)[i]? = some segment → SetsPassword segment →
    (segments masked)[i]? = some "password=REDACTED".toList

theorem isMasked_iff {dsn masked : String} : IsMasked dsn masked ↔ masked = maskDsn dsn := by
  constructor
  · intro h
    apply eq_maskDsn_iff.mpr
    apply List.ext_getElem (by rw [h.count, List.length_map])
    intro i first second
    have inside : i < (segments dsn).length := h.count ▸ first
    have here : (segments dsn)[i]? = some (segments dsn)[i] := List.getElem?_eq_getElem inside
    rw [List.getElem_map, ← Option.some_inj, ← List.getElem?_eq_getElem first]
    by_cases password : SetsPassword (segments dsn)[i]
    · rw [h.hidden i _ here password, maskSegment_of_password password]
    · rw [h.kept i _ here password, maskSegment_of_other password]
  · intro whole
    have lines := eq_maskDsn_iff.mp whole
    refine ⟨by rw [lines, List.length_map], ?_, ?_⟩
    · intro i segment here other
      rw [lines, List.getElem?_map, here, Option.map_some, maskSegment_of_other other]
    · intro i segment here password
      rw [lines, List.getElem?_map, here, Option.map_some, maskSegment_of_password password]

/-- The texts have passwords at the same places, and are the same in all else. -/
structure SameButPasswords (first second : String) : Prop where
  count : (segments first).length = (segments second).length
  places : ∀ (i : Nat) segment other, (segments first)[i]? = some segment →
    (segments second)[i]? = some other → (SetsPassword segment ↔ SetsPassword other)
  rest : ∀ (i : Nat) segment other, (segments first)[i]? = some segment →
    (segments second)[i]? = some other → ¬ SetsPassword segment → segment = other

theorem maskDsn_eq_iff {first second : String} :
    maskDsn first = maskDsn second ↔ SameButPasswords first second := by
  rw [eq_maskDsn_iff, segments_maskDsn]
  constructor
  · intro same
    have alike (i : Nat) (segment other : List Char) (here : (segments first)[i]? = some segment)
        (there : (segments second)[i]? = some other) : maskSegment segment = maskSegment other := by
      have masked := congrArg (·[i]?) same
      simpa only [List.getElem?_map, here, there, Option.map_some, Option.some_inj] using masked
    refine ⟨by simpa using congrArg List.length same, ?_, ?_⟩
    · intro i segment other here there
      exact (maskSegment_eq_iff.mp (alike i segment other here there)).1
    · intro i segment other here there
      exact (maskSegment_eq_iff.mp (alike i segment other here there)).2
  · intro h
    apply List.ext_getElem (by simpa using h.count)
    intro i before behind
    rw [List.length_map] at before behind
    have here := List.getElem?_eq_getElem before
    have there := List.getElem?_eq_getElem behind
    rw [List.getElem_map, List.getElem_map]
    exact maskSegment_eq_iff.mpr ⟨h.places i _ _ here there, h.rest i _ _ here there⟩

section Keys

variable (cased ignorable : Char → Bool)

/-- The key in lower case, by the given tables of what is cased and what case ignores. -/
def lowerKey (key : String) : String :=
  String.ofList (lowerAfter cased ignorable [] key.toList)

theorem ascii_of_name :
    ∀ name ∈ secretKeys ++ connectionKeys, ∀ c ∈ name.toList, c.toNat < 128 := by
  simp [secretKeys, connectionKeys]

theorem lowerKey_eq_iff {name : String} (mem : name ∈ secretKeys ++ connectionKeys) (key : String) :
    lowerKey cased ignorable key = name ↔ String.ofList (lower key.toList) = name := by
  have ascii := ascii_of_name name mem
  rw [lowerKey, ← String.toList_inj, String.toList_ofList, lowerAfter_eq_iff _ _ ascii,
    ← lower_eq_iff ascii, ← String.toList_inj, String.toList_ofList]

theorem lowerKey_mem_iff {names : List String} (sub : names ⊆ secretKeys ++ connectionKeys)
    (key : String) :
    lowerKey cased ignorable key ∈ names ↔ String.ofList (lower key.toList) ∈ names := by
  constructor
  · intro mem
    rwa [(lowerKey_eq_iff cased ignorable (sub mem) key).mp rfl]
  · intro mem
    rwa [(lowerKey_eq_iff cased ignorable (sub mem) key).mpr rfl]

/-- What is shown under a key is told from its lower case, wherever a capital sigma ends a word. -/
theorem redact_eq (key value : String) : redact key value =
    if lowerKey cased ignorable key ∈ secretKeys then if value = "" then "" else "REDACTED"
    else if lowerKey cased ignorable key ∈ connectionKeys then maskDsn value
    else value := by
  simp only [redact, String.isEmpty_iff,
    lowerKey_mem_iff cased ignorable (List.subset_append_left secretKeys connectionKeys),
    lowerKey_mem_iff cased ignorable (List.subset_append_right secretKeys connectionKeys)]

theorem redact_congr {key other : String}
    (same : lowerKey cased ignorable key = lowerKey cased ignorable other) (value : String) :
    redact key value = redact other value := by
  rw [redact_eq cased ignorable key, same, ← redact_eq]

/-- A key names a secret, or a connection string, or neither. -/
theorem redact_cases (key : String) :
    (lowerKey cased ignorable key ∈ secretKeys ∧
      ∀ value, redact key value = if value = "" then "" else "REDACTED") ∨
    (lowerKey cased ignorable key ∈ connectionKeys ∧ ∀ value, redact key value = maskDsn value) ∨
    (lowerKey cased ignorable key ∉ secretKeys ∧ lowerKey cased ignorable key ∉ connectionKeys ∧
      ∀ value, redact key value = value) := by
  by_cases secret : lowerKey cased ignorable key ∈ secretKeys
  · refine .inl ⟨secret, ?_⟩
    intro value
    rw [redact_eq cased ignorable, if_pos secret]
  · by_cases connection : lowerKey cased ignorable key ∈ connectionKeys
    · refine .inr (.inl ⟨connection, ?_⟩)
      intro value
      rw [redact_eq cased ignorable, if_neg secret, if_pos connection]
    · refine .inr (.inr ⟨secret, connection, ?_⟩)
      intro value
      rw [redact_eq cased ignorable, if_neg secret, if_neg connection]

theorem redact_redact (key value : String) : redact key (redact key value) = redact key value := by
  rcases redact_cases (fun _ => false) (fun _ => false) key with
    ⟨-, shown⟩ | ⟨-, shown⟩ | ⟨-, -, shown⟩
  · rw [shown value]
    split
    · rw [shown, if_pos rfl]
    · rw [shown, if_neg (by decide)]
  · rw [shown, shown, maskDsn_maskDsn]
  · rw [shown, shown]

/-- The names of secrets are the keys under which values are told apart from the empty one only. -/
theorem secret_iff (key : String) : lowerKey cased ignorable key ∈ secretKeys ↔
    ∀ value other, (value = "" ↔ other = "") → redact key value = redact key other := by
  constructor
  · intro secret value other empty
    rw [redact_eq cased ignorable, redact_eq cased ignorable key other, if_pos secret,
      if_pos secret, if_congr empty rfl rfl]
  · intro alike
    have same : redact key "a" = redact key "b" := alike "a" "b" (by decide)
    rcases redact_cases cased ignorable key with ⟨secret, -⟩ | ⟨-, shown⟩ | ⟨-, -, shown⟩
    · exact secret
    · rw [shown, shown] at same
      exact absurd same (by decide +kernel)
    · rw [shown, shown] at same
      exact absurd same (by decide)

theorem unchanged_iff (key : String) : (∀ value, redact key value = value) ↔
    lowerKey cased ignorable key ∉ secretKeys ∧ lowerKey cased ignorable key ∉ connectionKeys := by
  constructor
  · intro unchanged
    have same : redact key "password=" = "password=" := unchanged "password="
    rcases redact_cases cased ignorable key with ⟨-, shown⟩ | ⟨-, shown⟩ | ⟨secret, connection, -⟩
    · rw [shown] at same
      exact absurd same (by decide)
    · rw [shown] at same
      exact absurd same (by decide +kernel)
    · exact ⟨secret, connection⟩
  · rintro ⟨secret, connection⟩ value
    rw [redact_eq cased ignorable, if_neg secret, if_neg connection]

end Keys

/-- A connection string is masked in its passwords alone, and two of them look the same if and only
if they differ in these alone. Redaction done twice is redaction. What is shown under a key is the
same for all keys of one lower case, whatever is cased and whatever case ignores. Under the names of
secrets, and under no other key, only the empty value is told from the rest. Under all keys but
these and those of connection strings, and under no other, every value is shown as it is. -/
theorem redacts_only_secrets (cased ignorable : Char → Bool) :
    (∀ dsn masked, masked = maskDsn dsn ↔ IsMasked dsn masked) ∧
    (∀ dsn, maskDsn (maskDsn dsn) = maskDsn dsn) ∧
    (∀ first second, maskDsn first = maskDsn second ↔ SameButPasswords first second) ∧
    (∀ key value, redact key (redact key value) = redact key value) ∧
    (∀ key other, lowerKey cased ignorable key = lowerKey cased ignorable other →
      ∀ value, redact key value = redact other value) ∧
    (∀ key, lowerKey cased ignorable key ∈ secretKeys ↔
      ∀ value other, (value = "" ↔ other = "") → redact key value = redact key other) ∧
    ∀ key, (∀ value, redact key value = value) ↔
      lowerKey cased ignorable key ∉ secretKeys ∧
        lowerKey cased ignorable key ∉ connectionKeys := by
  refine ⟨?_, maskDsn_maskDsn, ?_, redact_redact, ?_, secret_iff cased ignorable,
    unchanged_iff cased ignorable⟩
  · intro dsn masked
    exact isMasked_iff.symm
  · intro first second
    exact maskDsn_eq_iff
  · intro key other same
    exact redact_congr cased ignorable same

/-- Greek letters are cased here, and a full stop is ignored. The first key has a Kelvin sign, and
the others have a sigma that ends a word. -/
theorem redacts_only_secrets_kelvin :
    let cased (c : Char) : Bool := c.isAlpha || ('Α' ≤ c && c ≤ 'ω')
    let ignorable (c : Char) : Bool := c = '.'
    let token := "TO\u212AEN"
    let dsn := ";password=a;;x=password=b;password="
    let masked := ";password=REDACTED;;x=password=b;password=REDACTED"
    lowerKey cased ignorable token = lowerKey cased ignorable "token" ∧
      (∀ value, redact token value = redact "token" value) ∧
      redact token "a" = redact token "b" ∧
      lowerKey cased ignorable "ΟΔΟΣ." = lowerKey cased ignorable "οδος." ∧
      redact "ΟΔΟΣ." dsn = redact "οδος." dsn ∧
      masked = maskDsn dsn ∧
      (segments masked)[3]? = some "x=password=b".toList ∧
      (segments masked)[4]? = some "password=REDACTED".toList := by
  intro cased ignorable token dsn masked
  obtain ⟨text, -, -, -, keys, secret, -⟩ := redacts_only_secrets cased ignorable
  have kelvin : lowerKey cased ignorable token = lowerKey cased ignorable "token" := by
    decide +kernel
  have sigma : lowerKey cased ignorable "ΟΔΟΣ." = lowerKey cased ignorable "οδος." := by
    decide +kernel
  have name : lowerKey cased ignorable token ∈ secretKeys := by decide +kernel
  have whole : masked = maskDsn dsn := by decide +kernel
  have parts := (text dsn masked).mp whole
  have inner : (segments dsn)[3]? = some "x=password=b".toList := by decide +kernel
  have last : (segments dsn)[4]? = some "password=".toList := by decide +kernel
  exact ⟨kelvin, keys token "token" kelvin, (secret token).mp name "a" "b" (by decide), sigma,
    keys "ΟΔΟΣ." "οδος." sigma dsn, whole, parts.kept 3 _ inner (by decide),
    parts.hidden 4 _ last (by decide)⟩

end Testbed.Log
