import Testbed.Json.Text
import Testbed.Proofs.Numerals
import Testbed.Proofs.Splitting

/-!
# JSON strings and numbers that are read back

A string is written between quotes with escapes, and the reader undoes them up to the quote that
ends it, whatever follows. A number is written as its digits, perhaps with a sign, a fraction and an
exponent, and ends where nothing follows that could belong to it.
-/

namespace Testbed.Json

open Text (isDigit)

/-! ## Strings -/

/-- A character is written behind a backslash, by its number or as it is. -/
theorem escape_cases (c : Char) :
    (∃ d, d ≠ 'u' ∧ unescaped? d = some c ∧ escape c = ['\\', d]) ∨
      (c.toNat < 0x20 ∧ escape c = '\\' :: 'u' :: fourDigits c.toNat) ∨
      (c ≠ '"' ∧ c ≠ '\\' ∧ 0x20 ≤ c.toNat ∧ escape c = [c]) := by
  have of_toNat {n : Nat} (h : c.toNat = n) : Char.ofNat n = c := by
    rw [← h, Char.ofNat_toNat]
  unfold escape
  split
  · rename_i quote
    exact .inl ⟨'"', by decide, by rw [quote]; rfl, rfl⟩
  rename_i quote
  split
  · rename_i backslash
    exact .inl ⟨'\\', by decide, by rw [backslash]; rfl, rfl⟩
  rename_i backslash
  split
  · rename_i newline
    exact .inl ⟨'n', by decide, by rw [newline]; rfl, rfl⟩
  split
  · rename_i carriageReturn
    exact .inl ⟨'r', by decide, by rw [carriageReturn]; rfl, rfl⟩
  split
  · rename_i tabulator
    exact .inl ⟨'t', by decide, by rw [tabulator]; rfl, rfl⟩
  split
  · rename_i backspace
    exact .inl ⟨'b', by decide, by rw [← of_toNat backspace]; rfl, rfl⟩
  split
  · rename_i formFeed
    exact .inl ⟨'f', by decide, by rw [← of_toNat formFeed]; rfl, rfl⟩
  split
  · rename_i control
    exact .inr (.inl ⟨control, rfl⟩)
  · rename_i visible
    exact .inr (.inr ⟨quote, backslash, Nat.not_lt.mp visible, rfl⟩)

theorem fourDigits_control : ∀ n < 32,
    fourDigits n = ['0', '0', Nat.digitChar (n / 16), Nat.digitChar (n % 16)] ∧
      unit? '0' '0' (Nat.digitChar (n / 16)) (Nat.digitChar (n % 16)) = some n := by
  decide

/-- An escaped character is read as the character, whatever follows it. -/
theorem stringBody_escape (c : Char) (fuel : Nat) (read rest : List Char) :
    stringBody (fuel + 1) read (escape c ++ rest) = stringBody fuel (c :: read) rest := by
  rcases escape_cases c with ⟨d, plain, undone, same⟩ | ⟨control, same⟩ |
    ⟨quote, backslash, visible, same⟩
  · rw [same]
    change stringBody (fuel + 1) read ('\\' :: d :: rest) = _
    rw [stringBody, undone]
    · rfl
    · exact fun _ _ _ _ _ letter => absurd letter plain
  · obtain ⟨digits, unit⟩ := fourDigits_control c.toNat control
    have high : isHigh c.toNat = false := by
      simp only [isHigh, Bool.and_eq_false_iff, decide_eq_false_iff_not]
      omega
    have low : isLow c.toNat = false := by
      simp only [isLow, Bool.and_eq_false_iff, decide_eq_false_iff_not]
      omega
    rw [same, digits]
    simp [stringBody, unit, high, low, Char.ofNat_toNat]
  · rw [same]
    change stringBody (fuel + 1) read (c :: rest) = _
    rw [stringBody, if_neg (Nat.not_lt.mpr visible)]
    · exact quote
    · exact fun _ _ _ _ _ letter => absurd letter backslash
    · exact fun _ _ letter => absurd letter backslash

theorem length_escape_pos (c : Char) : 0 < (escape c).length := by
  rcases escape_cases c with ⟨d, -, -, same⟩ | ⟨-, same⟩ | ⟨-, -, -, same⟩ <;> simp [same]

theorem stringBody_flatMap_escape (s : List Char) {fuel : Nat} (enough : s.length < fuel)
    (read rest : List Char) :
    stringBody fuel read (s.flatMap escape ++ '"' :: rest) = some (read.reverse ++ s, rest) := by
  induction s generalizing fuel read with
  | nil =>
    cases fuel with
    | zero => cases enough
    | succ fuel => simp [stringBody]
  | cons c s ih =>
    cases fuel with
    | zero => cases enough
    | succ fuel =>
      rw [List.flatMap_cons, List.append_assoc, stringBody_escape,
        ih (Nat.lt_of_succ_lt_succ enough)]
      simp

theorem length_le_flatMap_escape (s : List Char) : s.length ≤ (s.flatMap escape).length := by
  induction s with
  | nil => exact Nat.le_refl 0
  | cons c s ih =>
    have := length_escape_pos c
    rw [List.flatMap_cons, List.length_append, List.length_cons]
    omega

theorem token?_string (s : String) (rest : List Char) :
    token? ((stringText s).toList ++ rest) = some (.string s, rest) := by
  have text : (stringText s).toList ++ rest =
      '"' :: (s.toList.flatMap escape ++ '"' :: rest) := by
    simp [stringText]
  have short := length_le_flatMap_escape s.toList
  have enough : s.toList.length < (s.toList.flatMap escape ++ '"' :: rest).length + 1 := by
    rw [List.length_append]
    omega
  have body := stringBody_flatMap_escape s.toList enough [] rest
  rw [text, token?, body]
  simp

/-! ## Numbers -/

def digits (ds : List (Fin 10)) : List Char :=
  ds.map fun d => Nat.digitChar d.val

/-- An exponent as it is written. If it has a sign, that may be a minus. -/
structure Exponent where
  capital : Bool := false
  sign : Option Bool := none
  first : Fin 10
  others : List (Fin 10) := []
  deriving DecidableEq, Repr

structure Number where
  negative : Bool := false
  whole : Nat
  part : List (Fin 10) := []
  exponent : Option Exponent := none
  deriving DecidableEq, Repr

namespace Exponent

def letter (e : Exponent) : Char :=
  if e.capital then 'E' else 'e'

def signText (e : Exponent) : List Char :=
  match e.sign with
  | none => []
  | some true => ['-']
  | some false => ['+']

def written (e : Exponent) : List Char :=
  e.letter :: e.signText ++ digits (e.first :: e.others)

def value (e : Exponent) : Int :=
  let value : Int := Text.value (digits (e.first :: e.others))
  if e.sign = some true then -value else value

end Exponent

namespace Number

/-- There is no dot without digits behind it. -/
def partText (n : Number) : List Char :=
  if n.part.isEmpty then [] else '.' :: digits n.part

def exponentText (n : Number) : List Char :=
  (n.exponent.map Exponent.written).getD []

def body (n : Number) : List Char :=
  Nat.toDigits 10 n.whole ++ n.partText ++ n.exponentText

def written (n : Number) : List Char :=
  (if n.negative then ['-'] else []) ++ n.body

/-- A natural number of sixty-four bits, written with nothing but its digits. -/
def natural? (n : Number) : Option Nat :=
  if n.negative = false ∧ n.part = [] ∧ n.exponent = none ∧ n.whole < Nat.pow 2 64 then some n.whole
  else none

/-- What the number is read as, if it is not too large. -/
def token? (n : Number) : Option Token :=
  (Json.token? n.written).map Prod.fst

end Number

/-- What follows does not belong to a number. -/
def Ends (rest : List Char) : Prop :=
  ∀ c, rest.head? = some c → isDigit c = false ∧ c ≠ '.' ∧ c ≠ 'e' ∧ c ≠ 'E'

theorem ends_nil : Ends [] :=
  fun _ head => nomatch head

theorem isDigit_of_mem_digits {ds : List (Fin 10)} {c : Char} (h : c ∈ digits ds) :
    isDigit c = true := by
  obtain ⟨d, -, rfl⟩ := List.mem_map.mp h
  exact Text.isDigit_digitChar d.isLt

theorem integer?_toDigits (n : Nat) {rest : List Char}
    (ends : ∀ c, rest.head? = some c → isDigit c = false) :
    integer? (Nat.toDigits 10 n ++ rest) = some (Nat.toDigits 10 n, rest) := by
  have run : (Nat.toDigits 10 n ++ rest).takeWhile isDigit = Nat.toDigits 10 n :=
    Text.takeWhile_run (fun _ => Text.isDigit_of_mem_toDigits) ends
  have left : (Nat.toDigits 10 n ++ rest).dropWhile isDigit = rest :=
    Text.dropWhile_run (fun _ => Text.isDigit_of_mem_toDigits) ends
  unfold integer?
  rw [run, left]
  rcases Text.toDigits_cases n with zero | ⟨c, others, same, positive⟩
  · rw [zero]
    rfl
  · rw [same]
    dsimp only
    split
    · rename_i empty
      cases empty
    · rename_i zero
      exact absurd (List.cons.inj zero).1 positive
    · rename_i zero
      exact absurd (List.cons.inj zero).1 positive
    · rfl

theorem fraction?_partText (n : Number) {rest : List Char}
    (ends : ∀ c, rest.head? = some c → isDigit c = false ∧ c ≠ '.') :
    fraction? (n.partText ++ rest) = some (digits n.part, rest) := by
  unfold Number.partText
  split
  · rename_i empty
    rw [List.isEmpty_iff.mp empty]
    change fraction? rest = some ([], rest)
    unfold fraction?
    split
    · exact absurd rfl (ends '.' rfl).2
    · rfl
  · rename_i nonempty
    have run : (digits n.part ++ rest).takeWhile isDigit = digits n.part :=
      Text.takeWhile_run (fun _ => isDigit_of_mem_digits) fun c head => (ends c head).1
    have left : (digits n.part ++ rest).dropWhile isDigit = rest :=
      Text.dropWhile_run (fun _ => isDigit_of_mem_digits) fun c head => (ends c head).1
    have some : (digits n.part).isEmpty = false := by
      simpa [digits] using nonempty
    rw [List.cons_append, fraction?]
    simp [run, left, some]

theorem exponent?_written (e : Exponent) {rest : List Char}
    (ends : ∀ c, rest.head? = some c → isDigit c = false) :
    exponent? (e.written ++ rest) = some (some e.value, rest) := by
  have cons : digits (e.first :: e.others) = Nat.digitChar e.first.val :: digits e.others := rfl
  have all : ∀ c ∈ digits (e.first :: e.others), isDigit c = true := fun _ => isDigit_of_mem_digits
  have run := Text.takeWhile_run all ends
  have left := Text.dropWhile_run all ends
  have letter : e.letter = 'e' ∨ e.letter = 'E' := by
    unfold Exponent.letter
    split <;> simp
  have unsigned : Nat.digitChar e.first.val ≠ '-' ∧ Nat.digitChar e.first.val ≠ '+' := by
    constructor <;> exact Nat.digitChar_ne _ (by decide)
  change exponent? (e.letter :: (e.signText ++ digits (e.first :: e.others) ++ rest)) = _
  unfold exponent? Exponent.value Exponent.signText
  simp only [letter, Bool.or_eq_true, decide_eq_true_eq, if_true]
  rw [cons, List.cons_append] at run left
  cases e.sign with
  | none => simp [cons, unsigned, run, left]
  | some minus => cases minus <;> simp [cons, run, left]

theorem exponent?_exponentText (n : Number) {rest : List Char} (ends : Ends rest) :
    exponent? (n.exponentText ++ rest) = some (n.exponent.map Exponent.value, rest) := by
  unfold Number.exponentText
  cases n.exponent with
  | some e => exact exponent?_written e fun c head => (ends c head).1
  | none =>
    change exponent? rest = some (none, rest)
    unfold exponent?
    split
    · rename_i c others
      obtain ⟨-, -, small, capital⟩ := ends c rfl
      rw [if_neg (by simp [small, capital])]
    · rfl

/-- What follows the fraction does not belong to it. -/
theorem head_exponentText (n : Number) {rest : List Char} (ends : Ends rest) {c : Char}
    (head : (n.exponentText ++ rest).head? = some c) : isDigit c = false ∧ c ≠ '.' := by
  unfold Number.exponentText at head
  cases exponent : n.exponent with
  | none =>
    rw [exponent] at head
    exact ⟨(ends c head).1, (ends c head).2.1⟩
  | some e =>
    rw [exponent] at head
    obtain rfl : e.letter = c := Option.some.inj head
    unfold Exponent.letter
    split <;> decide

/-- What follows the digits in front of the dot does not belong to them. -/
theorem head_partText (n : Number) {rest : List Char} (ends : Ends rest) {c : Char}
    (head : (n.partText ++ (n.exponentText ++ rest)).head? = some c) : isDigit c = false := by
  unfold Number.partText at head
  split at head
  · exact (head_exponentText n ends head).1
  · obtain rfl : '.' = c := Option.some.inj head
    rfl

/-- Where nothing follows that belongs to the number, its pieces are found. -/
theorem pieces_body (n : Number) {rest : List Char} (ends : Ends rest) :
    integer? (n.body ++ rest) =
        some (Nat.toDigits 10 n.whole, n.partText ++ (n.exponentText ++ rest)) ∧
      fraction? (n.partText ++ (n.exponentText ++ rest)) =
        some (digits n.part, n.exponentText ++ rest) ∧
      exponent? (n.exponentText ++ rest) = some (n.exponent.map Exponent.value, rest) := by
  refine ⟨?_, fraction?_partText n fun c => head_exponentText n ends,
    exponent?_exponentText n ends⟩
  unfold Number.body
  rw [List.append_assoc, List.append_assoc]
  exact integer?_toDigits n.whole fun c => head_partText n ends

theorem unsigned?_body (n : Number) {rest : List Char} (ends : Ends rest) :
    unsigned? n.negative (n.body ++ rest) =
      (unsigned? n.negative n.body).map fun r => (r.1, rest) := by
  obtain ⟨whole, part, power⟩ := pieces_body n ends
  obtain ⟨whole', part', power'⟩ := pieces_body n ends_nil
  simp only [List.append_nil] at whole' part' power'
  unfold unsigned?
  simp only [whole, part, power, whole', part', power', Option.bind_eq_bind, Option.bind_some]
  split
  · rfl
  · split
    · rfl
    · rfl

theorem token?_digit {c : Char} (digit : isDigit c = true) (s : List Char) :
    token? (c :: s) = unsigned? false (c :: s) := by
  have other {d : Char} (noDigit : isDigit d = false) : c ≠ d := by
    rintro rfl
    cases digit.symm.trans noDigit
  rw [token?]
  all_goals
    intros
    rename_i same
    exact other (by decide) (List.cons.inj same).1

theorem Number.body_cons (n : Number) : ∃ c s, n.body = c :: s ∧ isDigit c = true := by
  have nonempty : Nat.toDigits 10 n.whole ≠ [] := Nat.toDigits_ne_nil
  obtain ⟨c, others, same⟩ := List.exists_cons_of_ne_nil nonempty
  refine ⟨c, others ++ n.partText ++ n.exponentText, by simp [Number.body, same], ?_⟩
  exact Text.isDigit_of_mem_toDigits (same ▸ List.mem_cons_self)

theorem token?_written (n : Number) (rest : List Char) :
    token? (n.written ++ rest) = unsigned? n.negative (n.body ++ rest) := by
  unfold Number.written
  cases negative : n.negative with
  | true => rfl
  | false =>
    obtain ⟨c, others, same, digit⟩ := n.body_cons
    change token? (n.body ++ rest) = _
    rw [same, List.cons_append, token?_digit digit]

theorem Number.token?_eq (n : Number) :
    n.token? = (unsigned? n.negative n.body).map Prod.fst := by
  have alone := token?_written n []
  rw [List.append_nil, List.append_nil] at alone
  rw [Number.token?, alone]

/-- A number is read alike wherever nothing follows that belongs to it. -/
theorem token?_number (n : Number) {rest : List Char} (ends : Ends rest) :
    token? (n.written ++ rest) = n.token?.map fun t => (t, rest) := by
  rw [token?_written, unsigned?_body n ends, n.token?_eq, Option.map_map]
  rfl

/-- A natural number of sixty-four bits is known exactly, and of any other number only that it is
one. -/
theorem token?_cases (n : Number) :
    (∃ k, n.natural? = some k ∧ n.token? = some (.natural k)) ∨
      (n.natural? = none ∧ (n.token? = none ∨ n.token? = some .number)) := by
  obtain ⟨whole, part, power⟩ := pieces_body n ends_nil
  have value := Nat.ofDigitChars_ten_toDigits (n := n.whole)
  have empty : (digits n.part).isEmpty = true ↔ n.part = [] := by
    rw [List.isEmpty_iff, digits, List.map_eq_nil_iff]
  simp only [List.append_nil] at whole part power
  rw [n.token?_eq]
  unfold unsigned? Number.natural?
  simp only [whole, part, power, Option.bind_eq_bind, Option.bind_some, Bool.and_eq_true,
    decide_eq_true_eq, Option.isNone_iff_eq_none, Option.map_eq_none_iff, empty]
  by_cases small : n.whole < Nat.pow 2 64
  · rw [significand_eq (by rw [value]; exact small), value]
    by_cases plain : n.part = [] ∧ n.exponent = none
    · by_cases negative : n.negative = true
      · right
        simp [negative, plain]
      · left
        simp [negative, plain, small]
    · right
      rw [if_neg (fun natural => plain ⟨natural.2.1, natural.2.2.1⟩),
        if_neg (fun exact => plain exact.1)]
      split <;> simp
  · -- Digits are dropped, so that the number is not known to be whole any more.
    have dropped := significand_ne (by decide) (value.symm ▸ Nat.not_lt.mp small)
    right
    rw [if_neg (fun natural => small natural.2.2.2), if_neg (fun exact => dropped exact.2)]
    split <;> simp

end Testbed.Json
