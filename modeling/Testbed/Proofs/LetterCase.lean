import Testbed.Text.LowerCase

/-!
# Lower case by the rules of Unicode

Unicode lowers a text character by character, but for a capital sigma, which becomes the sigma of
the end of a word where it ends one. A text becomes a given ASCII word if and only if it does so
letter by letter, and the Kelvin sign is the only character beyond ASCII that can take part in this.
So no ASCII word depends on where a capital sigma ends a word.
-/

namespace Testbed.Text

section Sigma

variable (cased ignorable : Char → Bool)

/-- Whether the nearest character that case does not ignore is a cased letter. -/
def meetsCased (side : List Char) : Bool :=
  (side.dropWhile ignorable).head?.any cased

/-- Whether a capital sigma ends a word. Both sides are given from the nearest character on. -/
def endsWord (front back : List Char) : Bool :=
  meetsCased cased ignorable front && !meetsCased cased ignorable back

/-- The text in lower case, given what stands in front of it from the nearest character on. -/
def lowerAfter (front : List Char) : List Char → List Char
  | [] => []
  | c :: s =>
    (if c = 'Σ' ∧ endsWord cased ignorable front s then ['ς'] else lowerChar c) ++
      lowerAfter (c :: front) s

end Sigma

/-- The sign for the unit of temperature, whose lower case is the letter k. -/
def kelvinSign : Char := Char.ofNat 0x212A

/-- The character is in ASCII, or at least its lower case is. -/
def LowersToAscii (c : Char) : Prop :=
  c.toNat < 128 ∨ c = kelvinSign

/-- The lower case of the characters that have one in ASCII. All others stay as they are. -/
def asciiLower (c : Char) : Char :=
  if c = kelvinSign then 'k' else c.toLower

theorem toLower_of_beyond {c : Char} (h : 128 ≤ c.toNat) : c.toLower = c := by
  apply dif_neg
  rintro ⟨-, small⟩
  have : c.toNat ≤ 90 := UInt32.le_iff_toNat_le.mp small
  omega

theorem lowerChar_ofNat : ∀ n < 128, lowerChar (Char.ofNat n) = [asciiLower (Char.ofNat n)] := by
  decide +kernel

theorem lowerChar_of_lowersToAscii {c : Char} (h : LowersToAscii c) :
    lowerChar c = [asciiLower c] := by
  rcases h with ascii | rfl
  · have lowered := lowerChar_ofNat c.toNat ascii
    rwa [Char.ofNat_toNat] at lowered
  · decide +kernel

/-- A run of capitals lies in ASCII, or is the Kelvin sign, or leads beyond ASCII. -/
theorem caseRuns_apart : ∀ r ∈ caseRuns,
    r.last < 128 ∨ (r.first = 0x212A ∧ r.last = 0x212A) ∨
      (128 ≤ r.first + r.shift ∧ r.last + r.shift < 0xD800) ∨
      (0xE000 ≤ r.first + r.shift ∧ r.last + r.shift < 0x110000) := by
  decide +kernel

theorem CaseRun.leads_beyond {r : CaseRun} (mem : r ∈ caseRuns) {n : Nat} (holds : r.holds n = true)
    (beyond : 128 ≤ n) (other : n ≠ 0x212A) : 128 ≤ (Char.ofNat (n + r.shift).toNat).toNat := by
  simp only [CaseRun.holds, Bool.and_eq_true, decide_eq_true_eq] at holds
  obtain ⟨⟨above, below⟩, -⟩ := holds
  have image : 128 ≤ n + r.shift ∧ (n + r.shift).toNat.isValidChar := by
    rcases caseRuns_apart r mem with ascii | ⟨first, last⟩ | ⟨least, most⟩ | ⟨least, most⟩
    · omega
    · omega
    · exact ⟨by omega, .inl (by omega)⟩
    · exact ⟨by omega, .inr ⟨by omega, by omega⟩⟩
  rw [Char.ofNat, dif_pos image.2]
  change 128 ≤ (n + r.shift).toNat
  omega

/-- All other characters leave something beyond ASCII behind. -/
theorem exists_beyond_lowerChar {c : Char} (h : ¬ LowersToAscii c) :
    ∃ d ∈ lowerChar c, 128 ≤ d.toNat := by
  obtain ⟨ascii, kelvin⟩ := not_or.mp h
  have beyond : 128 ≤ c.toNat := Nat.not_lt.mp ascii
  have other : c.toNat ≠ 0x212A := by
    intro same
    apply kelvin
    rw [kelvinSign, ← same, Char.ofNat_toNat]
  rw [lowerChar]
  split
  · exact ⟨Char.ofNat 0x307, by simp, by decide⟩
  · split
    · rename_i r found
      have holds : r.holds c.toNat = true := List.find?_some (p := fun r => CaseRun.holds r _) found
      exact ⟨_, List.mem_singleton.mpr rfl,
        CaseRun.leads_beyond (List.mem_of_find?_eq_some found) holds beyond other⟩
    · exact ⟨c, List.mem_singleton.mpr rfl, beyond⟩

theorem not_lowersToAscii_sigma : ¬ LowersToAscii 'Σ' :=
  not_or.mpr ⟨by decide, by decide⟩

section Words

variable (cased ignorable : Char → Bool) {word : List Char}

theorem lowerAfter_cons {c : Char} (h : LowersToAscii c) (front s : List Char) :
    lowerAfter cased ignorable front (c :: s) =
      asciiLower c :: lowerAfter cased ignorable (c :: front) s := by
  have sigma : c ≠ 'Σ' := by
    rintro rfl
    exact not_lowersToAscii_sigma h
  rw [lowerAfter, if_neg fun both => sigma both.1, lowerChar_of_lowersToAscii h,
    List.singleton_append]

theorem exists_beyond_lowerAfter {c : Char} (h : ¬ LowersToAscii c) (front s : List Char) :
    ∃ d ∈ lowerAfter cased ignorable front (c :: s), 128 ≤ d.toNat := by
  rw [lowerAfter]
  split
  · exact ⟨'ς', by simp, by decide⟩
  · obtain ⟨d, mem, beyond⟩ := exists_beyond_lowerChar h
    exact ⟨d, List.mem_append_left _ mem, beyond⟩

theorem asciiLower_of_not {c : Char} (h : ¬ LowersToAscii c) : asciiLower c = c := by
  obtain ⟨ascii, kelvin⟩ := not_or.mp h
  rw [asciiLower, if_neg kelvin, toLower_of_beyond (Nat.not_lt.mp ascii)]

/-- Only a text that becomes an ASCII word letter by letter becomes it at all. -/
theorem lowerAfter_eq_iff (ascii : ∀ c ∈ word, c.toNat < 128) (front s : List Char) :
    lowerAfter cased ignorable front s = word ↔ s.map asciiLower = word := by
  induction s generalizing front word with
  | nil => rfl
  | cons c s ih =>
    by_cases h : LowersToAscii c
    · rw [lowerAfter_cons cased ignorable h, List.map_cons]
      cases word with
      | nil => simp
      | cons a word =>
        rw [List.cons.injEq, List.cons.injEq, ih (List.forall_mem_cons.mp ascii).2]
    · -- Neither side can be an ASCII word: each has a character beyond ASCII.
      constructor
      · intro same
        obtain ⟨d, mem, beyond⟩ := exists_beyond_lowerAfter cased ignorable h front s
        exact absurd (ascii d (same ▸ mem)) (Nat.not_lt.mpr beyond)
      · intro same
        have mem : c ∈ word := by
          rw [← same, List.map_cons, asciiLower_of_not h]
          exact List.mem_cons_self
        exact absurd (.inl (ascii c mem)) h

/-- Where nothing is cased, no capital sigma ends a word. -/
theorem lowerAfter_uncased (front s : List Char) :
    lowerAfter (fun _ => false) ignorable front s = lower s := by
  induction s generalizing front with
  | nil => rfl
  | cons c s ih =>
    have medial : endsWord (fun _ => false) ignorable front s = false := by
      simp [endsWord, meetsCased]
    rw [lowerAfter, ih, medial, if_neg (by simp)]
    rfl

theorem lower_eq_iff (ascii : ∀ c ∈ word, c.toNat < 128) (s : List Char) :
    lower s = word ↔ s.map asciiLower = word := by
  rw [← lowerAfter_uncased (fun _ => false) [] s, lowerAfter_eq_iff _ _ ascii]

end Words

end Testbed.Text
