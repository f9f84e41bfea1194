import Testbed.Json.Token
import Testbed.Text.Numeral

/-!
# Decimal numerals

The digits of a number are read back as the number, and do not begin with a zero unless zero is all.
Numerals of one length are in the order of their numbers.
-/

namespace Testbed

theorem toList_toString (n : Nat) : (toString n).toList = Nat.toDigits 10 n := by
  rw [Nat.toString_eq_repr, Nat.toList_repr]

namespace Text

theorem isDigit_eq (c : Char) : isDigit c = c.isDigit := rfl

theorem isDigit_digitChar {d : Nat} (h : d < 10) : isDigit (Nat.digitChar d) = true := by
  rw [isDigit_eq, Nat.isDigit_digitChar]
  simpa using h

theorem isDigit_of_mem_toDigits {n : Nat} {c : Char} (h : c ∈ Nat.toDigits 10 n) :
    isDigit c = true := by
  rw [isDigit_eq]
  exact Nat.isDigit_of_mem_toDigits (by decide) (by decide) h

theorem isDigit_of_mem_padded {width n : Nat} {c : Char} (h : c ∈ padded width n) :
    isDigit c = true := by
  rw [padded] at h
  rcases List.mem_append.mp h with zero | digit
  · rw [(List.mem_replicate.mp zero).2]
    rfl
  · exact isDigit_of_mem_toDigits digit

theorem value_eq_ofDigitChars (s : List Char) : value s = Nat.ofDigitChars 10 s 0 :=
  Nat.ofDigitChars_eq_foldl.symm

theorem value_toDigits (n : Nat) : value (Nat.toDigits 10 n) = n := by
  rw [value_eq_ofDigitChars, Nat.ofDigitChars_ten_toDigits]

/-- Only zero has a zero in front. -/
theorem toDigits_cases (n : Nat) : Nat.toDigits 10 n = ['0'] ∨
    ∃ c rest, Nat.toDigits 10 n = c :: rest ∧ c ≠ '0' := by
  induction n using Nat.strongRecOn with
  | ind n ih =>
    by_cases small : n < 10
    · rw [Nat.toDigits_of_lt_base small]
      by_cases zero : n = 0
      · exact .inl (by rw [zero]; rfl)
      · exact .inr ⟨_, [], rfl, by simpa using zero⟩
    · have positive : n / 10 ≠ 0 := by omega
      rw [Nat.toDigits_of_base_le (by decide) (by omega)]
      rcases ih (n / 10) (by omega) with zero | ⟨c, rest, same, other⟩
      · have value := congrArg value zero
        rw [value_toDigits] at value
        exact absurd value positive
      · exact .inr ⟨c, _, by rw [same, List.cons_append], other⟩

/-- Zeros in front do not count. -/
theorem value_padded (width n : Nat) : value (padded width n) = n := by
  rw [value_eq_ofDigitChars, padded, Nat.ofDigitChars_append, Nat.ofDigitChars_replicate_zero,
    Nat.mul_zero, Nat.ofDigitChars_ten_toDigits]

theorem length_padded {width n : Nat} (narrow : (Nat.toDigits 10 n).length ≤ width) :
    (padded width n).length = width := by
  rw [padded, List.length_append, List.length_replicate]
  omega

theorem digit_range {c : Char} (h : isDigit c = true) :
    '0'.toNat ≤ c.toNat ∧ c.toNat ≤ '9'.toNat := by
  simpa [isDigit, Char.le_def, UInt32.le_iff_toNat_le] using h

/-- Of numerals of one length, the one that continues the larger number is the larger one. -/
theorem ofDigitChars_lt {a b : List Char} (long : a.length = b.length)
    (digits : ∀ c ∈ a, isDigit c = true) {m n : Nat} (less : m < n) :
    Nat.ofDigitChars 10 a m < Nat.ofDigitChars 10 b n := by
  induction a generalizing b m n with
  | nil =>
    obtain rfl := List.length_eq_zero_iff.mp long.symm
    simpa using less
  | cons c a ih =>
    obtain ⟨d, b, rfl⟩ := List.exists_cons_of_length_eq_add_one long.symm
    obtain ⟨first, others⟩ := List.forall_mem_cons.mp digits
    rw [Nat.ofDigitChars_cons, Nat.ofDigitChars_cons]
    refine ih (Nat.succ.inj long) others ?_
    have range := digit_range first
    have nine : '9'.toNat = '0'.toNat + 9 := rfl
    omega

/-- Numerals of one length are in the order of their numbers, whatever comes behind them. -/
theorem append_lt_append {a b : List Char} (long : a.length = b.length)
    (left : ∀ c ∈ a, isDigit c = true) (right : ∀ c ∈ b, isDigit c = true) {n : Nat}
    (less : Nat.ofDigitChars 10 a n < Nat.ofDigitChars 10 b n) (x y : List Char) :
    a ++ x < b ++ y := by
  induction a generalizing b n with
  | nil =>
    obtain rfl := List.length_eq_zero_iff.mp long.symm
    exact absurd less (Nat.lt_irrefl _)
  | cons c a ih =>
    obtain ⟨d, b, rfl⟩ := List.exists_cons_of_length_eq_add_one long.symm
    obtain ⟨first, lefts⟩ := List.forall_mem_cons.mp left
    obtain ⟨second, rights⟩ := List.forall_mem_cons.mp right
    rw [Nat.ofDigitChars_cons, Nat.ofDigitChars_cons] at less
    rw [List.cons_append, List.cons_append, List.cons_lt_cons_iff]
    have range := digit_range first
    have range' := digit_range second
    rcases Nat.lt_trichotomy c.toNat d.toNat with lower | same | higher
    · exact .inl (by simpa [Char.lt_def, UInt32.lt_iff_toNat_lt] using lower)
    · obtain rfl := Char.toNat_inj.mp same
      exact .inr ⟨rfl, ih (Nat.succ.inj long) lefts rights less⟩
    · have more := ofDigitChars_lt (Nat.succ.inj long).symm rights
        (show 10 * n + (d.toNat - '0'.toNat) < 10 * n + (c.toNat - '0'.toNat) by omega)
      omega

end Text

namespace Json

open Text

/-- The number that digits make out of the number in front of them. -/
theorem le_ofDigitChars (digits : List Char) (n : Nat) : n ≤ Nat.ofDigitChars 10 digits n := by
  induction digits generalizing n with
  | nil => exact Nat.le_of_eq Nat.ofDigitChars_nil.symm
  | cons c digits ih =>
    rw [Nat.ofDigitChars_cons]
    have := ih (10 * n + (c.toNat - '0'.toNat))
    omega

theorem significand_cons (n : Nat) (c : Char) (digits : List Char) :
    significand n (c :: digits) = if 10 * n + (c.toNat - '0'.toNat) < Nat.pow 2 64 then
      significand (10 * n + (c.toNat - '0'.toNat)) digits else (n, digits.length + 1) := by
  rw [significand, digitValue, Nat.mul_comm n 10]

/-- A number of sixty-four bits is known exactly. -/
theorem significand_eq {digits : List Char} {n : Nat}
    (small : Nat.ofDigitChars 10 digits n < Nat.pow 2 64) :
    significand n digits = (Nat.ofDigitChars 10 digits n, 0) := by
  induction digits generalizing n with
  | nil => rfl
  | cons c digits ih =>
    rw [Nat.ofDigitChars_cons] at small ⊢
    have := le_ofDigitChars digits (10 * n + (c.toNat - '0'.toNat))
    rw [significand_cons, if_pos (by omega), ih small]

/-- Digits of a number that is too large are dropped. -/
theorem significand_ne {digits : List Char} {n : Nat} (start : n < Nat.pow 2 64)
    (large : Nat.pow 2 64 ≤ Nat.ofDigitChars 10 digits n) : (significand n digits).2 ≠ 0 := by
  induction digits generalizing n with
  | nil =>
    rw [Nat.ofDigitChars_nil] at large
    omega
  | cons c digits ih =>
    rw [Nat.ofDigitChars_cons] at large
    rw [significand_cons]
    split
    · rename_i next
      exact ih next large
    · exact Nat.succ_ne_zero _

end Json

end Testbed
