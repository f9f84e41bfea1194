import Mathlib.Data.List.Basic
import Testbed.Text.Utf8

/-!
# What an octet string says

An octet string is read from the left. Where the encoding of a character stands, it is that
character. Elsewhere as many octets as could still have begun a character, but at least one, become
a mark. So there is exactly one reading, and it is the one of the octet machine. A newline stands
for itself wherever it is, also behind a sequence that has broken off.
-/

namespace Testbed.Text

def replacement : Char :=
  Char.ofNat 0xFFFD

def Begins (front : List UInt8) : Prop :=
  ∃ c, front <+: String.utf8EncodeChar c

/-- A reading of an octet string as a text. -/
inductive Decodes : List UInt8 → List Char → Prop where
  | done : Decodes [] []
  | character (c : Char) {rest : List UInt8} {text : List Char} (others : Decodes rest text) :
      Decodes (String.utf8EncodeChar c ++ rest) (c :: text)
  /-- No character stands here. The longest part that could begin one is passed over, or a single
  octet if there is no such part. -/
  | mark {bad rest : List UInt8} {text : List Char}
      (broken : ∀ c, ¬ String.utf8EncodeChar c <+: bad ++ rest)
      (some : bad ≠ []) (part : Begins bad ∨ bad.length = 1)
      (longest : ∀ front, front <+: bad ++ rest → Begins front → front.length ≤ bad.length)
      (others : Decodes rest text) : Decodes (bad ++ rest) (replacement :: text)

/-! ## Encodings -/

/-- What is left of a value without its last so many groups of six bits. -/
def upper : Nat → Nat → Nat
  | 0, v => v
  | n + 1, v => upper n v / 64

/-- The octets behind the first one, with six bits of the value each. -/
def trail : Nat → Nat → List UInt8
  | 0, _ => []
  | n + 1, v => UInt8.ofNat (upper n v % 64 + 128) :: trail n v

theorem exists_upper (n u : Nat) : ∃ v, upper n v = u := by
  induction n generalizing u with
  | zero => exact ⟨u, rfl⟩
  | succ n ih =>
    obtain ⟨v, same⟩ := ih (u * 64)
    exact ⟨v, by rw [upper, same]; omega⟩

theorem exists_char {v : Nat} (valid : v.isValidChar) : ∃ c : Char, c.toNat = v :=
  ⟨Char.ofNatAux v valid, rfl⟩

/-- The value has so many octets behind the first one, and that is the given one. -/
def Leads (n missing v : Nat) : Prop :=
  missing = 1 ∧ 0x80 ≤ v ∧ v < 0x800 ∧ upper 1 v + 0xC0 = n ∨
    missing = 2 ∧ 0x800 ≤ v ∧ v < 0x10000 ∧ upper 2 v + 0xE0 = n ∨
      missing = 3 ∧ 0x10000 ≤ v ∧ v < 0x110000 ∧ upper 3 v + 0xF0 = n

theorem Leads.range {n missing v : Nat} (h : Leads n missing v) : 0xC0 ≤ n ∧ n < 0x100 := by
  simp only [Leads, upper] at h
  omega

/-- An encoding is a single octet, or a first one and those behind it. -/
theorem encode_cases (c : Char) :
    (c.toNat < 0x80 ∧ String.utf8EncodeChar c = [UInt8.ofNat c.toNat]) ∨
      ∃ n missing, Leads n missing c.toNat ∧
        String.utf8EncodeChar c = UInt8.ofNat n :: trail missing c.toNat := by
  have valid : c.toNat.isValidChar := c.valid
  rw [String.utf8EncodeChar]
  simp only [Char.toNat_val]
  split
  · rename_i small
    exact .inl ⟨by omega, rfl⟩
  split
  · rename_i large small
    refine .inr ⟨_, 1, .inl ⟨rfl, by omega, by omega, rfl⟩, ?_⟩
    simp only [trail, upper]
    rw [show c.toNat / 64 % 32 = c.toNat / 64 by omega]
  split
  · rename_i large small
    refine .inr ⟨_, 2, .inr (.inl ⟨rfl, by omega, by omega, rfl⟩), ?_⟩
    simp only [trail, upper]
    rw [show c.toNat / 4096 % 16 = c.toNat / 64 / 64 by omega]
  · rename_i large
    refine .inr ⟨_, 3, .inr (.inr ⟨rfl, by omega, by omega, rfl⟩), ?_⟩
    simp only [trail, upper]
    rw [show c.toNat / 262144 % 8 = c.toNat / 64 / 64 / 64 by omega,
      show c.toNat / 4096 = c.toNat / 64 / 64 by omega]

theorem encode_small {b : UInt8} (small : b.toNat < 0x80) :
    String.utf8EncodeChar (Char.ofNat b.toNat) = [b] := by
  obtain ⟨c, value⟩ := exists_char (v := b.toNat) (.inl (by omega))
  rw [← value, Char.ofNat_toNat]
  rcases encode_cases c with ⟨-, same⟩ | ⟨n, missing, leads, -⟩
  · rw [same, value, UInt8.ofNat_toNat]
  · simp only [Leads] at leads
    omega

/-- No encoding begins another one. -/
theorem eq_of_encode_prefix {c d : Char} {rest : List UInt8}
    (h : String.utf8EncodeChar c <+: String.utf8EncodeChar d ++ rest) : c = d := by
  obtain ⟨more, same⟩ := h
  have bytes := congrArg List.toByteArray same
  rw [List.toByteArray_append, List.toByteArray_append] at bytes
  have first := ByteArray.utf8DecodeChar?_utf8EncodeChar_append (b := more.toByteArray) (c := c)
  rw [bytes, ByteArray.utf8DecodeChar?_utf8EncodeChar_append] at first
  exact (Option.some.inj first).symm

theorem encode_newline : String.utf8EncodeChar '\n' = [10] := by
  decide

theorem le_of_mem_trail {n v : Nat} {b : UInt8} (h : b ∈ trail n v) : 128 ≤ b.toNat := by
  induction n with
  | zero => cases h
  | succ n ih =>
    rcases List.mem_cons.mp h with rfl | h
    · rw [UInt8.toNat_ofNat']
      omega
    · exact ih h

/-- A newline stands in no encoding but its own. -/
theorem eq_newline_of_mem {c : Char} (h : 10 ∈ String.utf8EncodeChar c) : c = '\n' := by
  have ten : (10 : UInt8).toNat = 10 := rfl
  rcases encode_cases c with ⟨small, same⟩ | ⟨n, missing, leads, same⟩
  · rw [same, List.mem_singleton] at h
    have value := congrArg UInt8.toNat h
    rw [UInt8.toNat_ofNat', ten] at value
    rw [← Char.ofNat_toNat c, show c.toNat = 10 by omega]
  · have large := leads.range
    rw [same] at h
    rcases List.mem_cons.mp h with first | behind
    · have value := congrArg UInt8.toNat first
      rw [UInt8.toNat_ofNat', ten] at value
      omega
    · exact absurd (le_of_mem_trail behind) (by decide)

/-! ## The octet machine -/

def unitsFrom (pending : Option Unfinished) : List UInt8 → List Unit8
  | [] => if pending.isSome then [none] else []
  | b :: rest =>
    (nextOctet pending b.toNat).1 ++ unitsFrom (nextOctet pending b.toNat).2 rest

theorem units_eq (octets : List UInt8) : units octets = unitsFrom none octets := by
  let step (state : List Unit8 × Option Unfinished) (b : UInt8) :=
    ((nextOctet state.2 b.toNat).1.reverse ++ state.1, (nextOctet state.2 b.toNat).2)
  have run (found : List Unit8) (pending : Option Unfinished) :
      (if (octets.foldl step (found, pending)).2.isSome
        then none :: (octets.foldl step (found, pending)).1
        else (octets.foldl step (found, pending)).1).reverse =
      found.reverse ++ unitsFrom pending octets := by
    induction octets generalizing found pending with
    | nil => cases pending <;> simp [unitsFrom]
    | cons b octets ih =>
      rw [List.foldl_cons, ih, unitsFrom]
      simp
  exact run [] none

def Unfinished.Admits (p : Unfinished) (v : Nat) : Prop :=
  upper p.missing v = p.bits ∧ p.low ≤ upper (p.missing - 1) v % 64 + 128 ∧
    upper (p.missing - 1) v % 64 + 128 ≤ p.high

/-- The machine has read the beginning of a character and knows what may follow. -/
structure Awaits (front : List UInt8) (p : Unfinished) : Prop where
  started : front ≠ []
  missing : p.missing ≠ 0
  range : 0x80 ≤ p.low ∧ p.low ≤ p.high ∧ p.high ≤ 0xBF
  valid : ∀ v, p.Admits v → v.isValidChar
  encoding : ∀ c : Char, p.Admits c.toNat →
    String.utf8EncodeChar c = front ++ trail p.missing c.toNat
  admits : ∀ c : Char, front <+: String.utf8EncodeChar c → p.Admits c.toNat

/-- A first octet is a character, tells which characters may come of it, or begins none. -/
theorem firstOctet_cases (n : Nat) :
    (n < 0x80 ∧ firstOctet n = ([some (Char.ofNat n)], none)) ∨
      (∃ p, firstOctet n = ([], some p) ∧ 0x80 ≤ n ∧ p.missing ≠ 0 ∧
        (0x80 ≤ p.low ∧ p.low ≤ p.high ∧ p.high ≤ 0xBF) ∧
        ∀ missing v, v.isValidChar ∧ Leads n missing v ↔ missing = p.missing ∧ p.Admits v) ∨
      (firstOctet n = ([none], none) ∧ 0x80 ≤ n ∧
        ∀ missing v, v.isValidChar → ¬ Leads n missing v) := by
  unfold firstOctet
  simp only [Bool.and_eq_true, decide_eq_true_eq]
  split
  · exact .inl ⟨by assumption, rfl⟩
  -- Each of these ranges leaves the next octet a range of its own.
  iterate 7
    split
    · refine .inr (.inl ⟨_, rfl, by omega, by simp, by simp, fun missing v => ?_⟩)
      simp only [Unfinished.Admits, Leads, upper, Nat.isValidChar, Nat.reduceSub]
      omega
  · refine .inr (.inr ⟨rfl, by omega, fun missing v valid leads => ?_⟩)
    simp only [Leads, upper, Nat.isValidChar] at valid leads
    omega

/-- The first octet of an encoding. -/
theorem head_encode {c : Char} {b : UInt8} (h : [b] <+: String.utf8EncodeChar c) :
    (c.toNat < 0x80 ∧ b.toNat = c.toNat) ∨ ∃ missing, Leads b.toNat missing c.toNat := by
  have value {n : Nat} {more : List UInt8} (small : n < 256)
      (first : [b] <+: UInt8.ofNat n :: more) : b.toNat = n := by
    obtain ⟨rfl, -⟩ := List.cons_prefix_cons.mp first
    rw [UInt8.toNat_ofNat', Nat.mod_eq_of_lt small]
  rcases encode_cases c with ⟨small, same⟩ | ⟨n, missing, leads, same⟩
  · rw [same] at h
    exact .inl ⟨small, value (by omega) h⟩
  · rw [same] at h
    rw [value leads.range.2 h]
    exact .inr ⟨missing, leads⟩

theorem awaits_first {b : UInt8} {p : Unfinished} (h : firstOctet b.toNat = ([], some p)) :
    Awaits [b] p := by
  rcases firstOctet_cases b.toNat with ⟨-, same⟩ | ⟨q, same, large, missing, range, admits⟩ |
    ⟨same, -⟩
  · cases h.symm.trans same
  · obtain rfl : q = p := by
      rw [same] at h
      exact Option.some.inj (Prod.mk.inj h).2
    refine ⟨List.cons_ne_nil b [], missing, range,
      fun v admitted => ((admits _ v).mpr ⟨rfl, admitted⟩).1, fun c admitted => ?_,
      fun c begun => ?_⟩
    · obtain ⟨-, leads⟩ := (admits _ _).mpr ⟨rfl, admitted⟩
      rcases encode_cases c with ⟨small, -⟩ | ⟨n, missing, other, encoding⟩
      · simp only [Leads] at leads
        omega
      · have alike : missing = q.missing ∧ n = b.toNat := by
          simp only [Leads] at leads other
          omega
        rw [encoding, alike.1, alike.2, UInt8.ofNat_toNat]
        rfl
    · rcases head_encode begun with ⟨small, value⟩ | ⟨missing, leads⟩
      · omega
      · exact ((admits missing _).mp ⟨c.valid, leads⟩).2
  · cases h.symm.trans same

/-- An octet that begins no character. -/
theorem not_begins_of_firstOctet {b : UInt8} (h : firstOctet b.toNat = ([none], none)) :
    ¬ Begins [b] := by
  rintro ⟨c, begun⟩
  rcases firstOctet_cases b.toNat with ⟨-, same⟩ | ⟨q, same, -⟩ | ⟨-, large, other⟩
  · cases h.symm.trans same
  · cases h.symm.trans same
  · rcases head_encode begun with ⟨small, value⟩ | ⟨missing, leads⟩
    · omega
    · exact other missing _ c.valid leads

section Awaits

variable {front : List UInt8} {p : Unfinished} {b : UInt8}

/-- An unfinished sequence knows the octet that comes next in an encoding. -/
theorem Awaits.head (h : Awaits front p) {c : Char} {more : List UInt8}
    (begun : front ++ b :: more <+: String.utf8EncodeChar c) :
    p.Admits c.toNat ∧ upper (p.missing - 1) c.toNat % 64 + 128 = b.toNat := by
  have admitted := h.admits c ((List.prefix_append _ _).trans begun)
  obtain ⟨missing, same⟩ : ∃ missing, p.missing = missing + 1 :=
    Nat.exists_eq_succ_of_ne_zero h.missing
  rw [h.encoding c admitted, List.prefix_append_right_inj, same, trail] at begun
  obtain ⟨rfl, -⟩ := List.cons_prefix_cons.mp begun
  refine ⟨admitted, ?_⟩
  rw [same, Nat.add_sub_cancel, UInt8.toNat_ofNat']
  omega

/-- What admits a next octet becomes a character with it, if that is the last one. -/
theorem Awaits.complete (h : Awaits front p) (last : p.missing ≤ 1) (low : p.low ≤ b.toNat)
    (high : b.toNat ≤ p.high) :
    front ++ [b] = String.utf8EncodeChar (Char.ofNat (p.bits * 64 + (b.toNat - 0x80))) := by
  have missing : p.missing = 1 := by
    have := h.missing
    omega
  obtain ⟨lowest, -, highest⟩ := h.range
  obtain ⟨v, value⟩ : ∃ v, v = p.bits * 64 + (b.toNat - 0x80) := ⟨_, rfl⟩
  have admitted : p.Admits v := by
    simp only [Unfinished.Admits, missing, upper, Nat.reduceSub]
    omega
  obtain ⟨c, same⟩ := exists_char (h.valid v admitted)
  rw [← value, ← same, Char.ofNat_toNat, h.encoding c (same ▸ admitted), missing, trail, trail,
    upper, same, show v % 64 + 128 = b.toNat by omega, UInt8.ofNat_toNat]

/-- What admits a next octet goes on with it, if it is not the last one. -/
theorem Awaits.next (h : Awaits front p) (more : ¬ p.missing ≤ 1) (low : p.low ≤ b.toNat)
    (high : b.toNat ≤ p.high) :
    Awaits (front ++ [b]) ⟨p.bits * 64 + (b.toNat - 0x80), p.missing - 1, 0x80, 0xBF⟩ := by
  obtain ⟨lowest, -, highest⟩ := h.range
  obtain ⟨missing, same⟩ : ∃ missing, p.missing = missing + 2 := ⟨p.missing - 2, by omega⟩
  have admits (v : Nat) :
      Unfinished.Admits ⟨p.bits * 64 + (b.toNat - 0x80), p.missing - 1, 0x80, 0xBF⟩ v ↔
        p.Admits v ∧ upper (p.missing - 1) v % 64 + 128 = b.toNat := by
    have before : p.missing - 1 = missing + 1 := by omega
    simp only [Unfinished.Admits, before, Nat.add_sub_cancel]
    rw [same]
    simp only [upper]
    omega
  refine ⟨by simp, Nat.sub_ne_zero_of_lt (by omega), by simp,
    fun v admitted => h.valid v ((admits v).mp admitted).1, fun c admitted => ?_,
    fun c begun => (admits _).mpr (h.head begun)⟩
  obtain ⟨before, octet⟩ := (admits _).mp admitted
  have split : trail p.missing c.toNat = b :: trail (p.missing - 1) c.toNat := by
    rw [same] at octet ⊢
    rw [trail, ← UInt8.ofNat_toNat (x := b), ← octet]
    rfl
  rw [h.encoding c before, split, List.append_assoc]
  rfl

/-- Any unfinished sequence could still become a character. -/
theorem Awaits.begins (h : Awaits front p) :
    ∃ c, String.utf8EncodeChar c = front ++ trail p.missing c.toNat := by
  obtain ⟨lowest, ordered, highest⟩ := h.range
  obtain ⟨missing, same⟩ : ∃ missing, p.missing = missing + 1 :=
    Nat.exists_eq_succ_of_ne_zero h.missing
  obtain ⟨v, value⟩ := exists_upper missing (p.bits * 64 + (p.low - 0x80))
  have admitted : p.Admits v := by
    simp only [Unfinished.Admits, same, upper, Nat.add_sub_cancel, value]
    omega
  obtain ⟨c, rfl⟩ := exists_char (h.valid v admitted)
  exact ⟨c, h.encoding c admitted⟩

/-- Where the next octet is not admitted, no longer part could begin a character. -/
theorem Awaits.longest (h : Awaits front p) {rest : List UInt8}
    (stops : ∀ b, rest.head? = some b → ¬ (p.low ≤ b.toNat ∧ b.toNat ≤ p.high))
    (longer : List UInt8) (here : longer <+: front ++ rest) (begins : Begins longer) :
    longer.length ≤ front.length := by
  obtain ⟨c, begun⟩ := begins
  by_contra long
  have within : front <+: longer :=
    List.prefix_of_prefix_length_le (List.prefix_append _ _) here (by omega)
  obtain ⟨more, rfl⟩ := within
  cases more with
  | nil => simp at long
  | cons b more =>
    obtain ⟨admitted, octet⟩ := h.head begun
    rw [List.prefix_append_right_inj] at here
    have next : rest.head? = some b := by
      obtain ⟨others, rfl⟩ := here
      rfl
    have range := admitted.2
    rw [octet] at range
    exact stops b next range

/-- There the unfinished sequence is passed over. -/
theorem Awaits.mark (h : Awaits front p) {rest : List UInt8} {text : List Char}
    (stops : ∀ b, rest.head? = some b → ¬ (p.low ≤ b.toNat ∧ b.toNat ≤ p.high))
    (others : Decodes rest text) : Decodes (front ++ rest) (replacement :: text) := by
  obtain ⟨d, encoding⟩ := h.begins
  refine .mark (fun c whole => ?_) h.started (.inl ⟨d, encoding ▸ List.prefix_append _ _⟩)
    (h.longest stops) others
  have short := h.longest stops _ whole ⟨c, List.prefix_rfl⟩
  have within : String.utf8EncodeChar c <+: front :=
    List.prefix_of_prefix_length_le whole (List.prefix_append _ _) short
  have first : String.utf8EncodeChar c <+: String.utf8EncodeChar d ++ [] := by
    rw [List.append_nil, encoding]
    exact within.trans (List.prefix_append _ _)
  have same : c = d := eq_of_encode_prefix first
  have length := within.length_le
  rw [same, encoding, List.length_append] at length
  obtain ⟨missing, next⟩ : ∃ missing, p.missing = missing + 1 :=
    Nat.exists_eq_succ_of_ne_zero h.missing
  rw [next, trail, List.length_cons] at length
  omega

end Awaits

/-- An octet that begins no character is passed over alone. -/
theorem mark_single {b : UInt8} {rest : List UInt8} {text : List Char} (none : ¬ Begins [b])
    (others : Decodes rest text) : Decodes (b :: rest) (replacement :: text) := by
  have empty (front : List UInt8) (here : front <+: [b] ++ rest) (begins : Begins front) :
      front = [] := by
    cases front with
    | nil => rfl
    | cons d front =>
      obtain ⟨rfl, -⟩ := List.cons_prefix_cons.mp here
      obtain ⟨c, begun⟩ := begins
      exact absurd ⟨c, (List.prefix_append [d] front).trans begun⟩ none
  change Decodes ([b] ++ rest) _
  refine .mark (fun c whole => ?_) (List.cons_ne_nil b []) (.inr rfl)
    (fun front here begins => ?_) others
  · exact String.utf8EncodeChar_ne_nil (empty _ whole ⟨c, List.prefix_rfl⟩)
  · rw [empty front here begins]
    exact Nat.zero_le 1

/-- The machine reads every octet string, whatever it has read before. -/
theorem decodes_unitsFrom (octets : List UInt8) :
    Decodes octets ((unitsFrom none octets).map (·.getD replacement)) ∧
      ∀ front p, Awaits front p →
        Decodes (front ++ octets) ((unitsFrom (some p) octets).map (·.getD replacement)) := by
  induction octets with
  | nil => exact ⟨.done, fun front p awaits => awaits.mark (by simp) .done⟩
  | cons b rest ih =>
    obtain ⟨fresh, goesOn⟩ := ih
    have first : Decodes (b :: rest) ((unitsFrom none (b :: rest)).map (·.getD replacement)) := by
      rw [unitsFrom, nextOctet]
      rcases firstOctet_cases b.toNat with ⟨small, same⟩ | ⟨p, same, -⟩ | ⟨same, -⟩
      · rw [same]
        have read := Decodes.character (Char.ofNat b.toNat) fresh
        rwa [encode_small small] at read
      · rw [same]
        exact goesOn [b] p (awaits_first same)
      · rw [same]
        exact mark_single (not_begins_of_firstOctet same) fresh
    refine ⟨first, fun front p awaits => ?_⟩
    rw [unitsFrom, nextOctet]
    by_cases range : p.low ≤ b.toNat ∧ b.toNat ≤ p.high
    · by_cases last : p.missing ≤ 1
      · have read := Decodes.character (Char.ofNat (p.bits * 64 + (b.toNat - 0x80))) fresh
        rw [← awaits.complete last range.1 range.2, List.append_assoc] at read
        simpa [range, last] using read
      · have read := goesOn _ _ (awaits.next last range.1 range.2)
        rw [List.append_assoc] at read
        simpa [range, last] using read
    · have stops : ∀ c, (b :: rest).head? = some c → ¬ (p.low ≤ c.toNat ∧ c.toNat ≤ p.high) := by
        rintro _ ⟨rfl⟩
        exact range
      have read := awaits.mark stops first
      rw [unitsFrom, nextOctet] at read
      simpa [range] using read

theorem decodes_decodeLossy (octets : List UInt8) : Decodes octets (decodeLossy octets) := by
  rw [decodeLossy, units_eq]
  exact (decodes_unitsFrom octets).1

/-! ## Readings -/

theorem length_le_of_part {bad other : List UInt8} (part : Begins bad ∨ bad.length = 1)
    (some : other ≠ []) (short : Begins bad → bad.length ≤ other.length) :
    bad.length ≤ other.length := by
  rcases part with begins | single
  · exact short begins
  · rw [single]
    exact List.length_pos_iff.mpr some

/-- There is no other reading. -/
theorem Decodes.unique {octets : List UInt8} {s t : List Char} (first : Decodes octets s)
    (second : Decodes octets t) : s = t := by
  induction first generalizing t with
  | done =>
    generalize same : ([] : List UInt8) = octets at second
    cases second with
    | done => rfl
    | character c =>
      exact absurd (List.append_eq_nil_iff.mp same.symm).1 String.utf8EncodeChar_ne_nil
    | mark broken some => exact absurd (List.append_eq_nil_iff.mp same.symm).1 some
  | @character c rest s others ih =>
    generalize same : String.utf8EncodeChar c ++ rest = octets at second
    cases second with
    | done => exact absurd (List.append_eq_nil_iff.mp same).1 String.utf8EncodeChar_ne_nil
    | @character d behind t others' =>
      have begun : String.utf8EncodeChar c <+: String.utf8EncodeChar d ++ behind := by
        rw [← same]
        exact List.prefix_append _ _
      obtain rfl : c = d := eq_of_encode_prefix begun
      obtain rfl := List.append_cancel_left same
      rw [ih others']
    | mark broken =>
      rw [← same] at broken
      exact absurd (List.prefix_append _ _) (broken c)
  | @mark bad rest s broken some part longest others ih =>
    generalize same : bad ++ rest = octets at second
    cases second with
    | done => exact absurd (List.append_eq_nil_iff.mp same).1 some
    | character c =>
      rw [same] at broken
      exact absurd (List.prefix_append _ _) (broken c)
    | @mark bad' rest' t broken' some' part' longest' others' =>
      have within : bad <+: bad' ++ rest' := same ▸ List.prefix_append _ _
      have within' : bad' <+: bad ++ rest := same ▸ List.prefix_append _ _
      have length : bad.length = bad'.length :=
        Nat.le_antisymm (length_le_of_part part some' fun begins => longest' bad within begins)
          (length_le_of_part part' some fun begins => longest bad' within' begins)
      obtain ⟨rfl, rfl⟩ := List.append_inj same length
      rw [ih others']

/-- The readings of an octet string are what the machine makes of it. -/
theorem decodes_iff {octets : List UInt8} {text : List Char} :
    Decodes octets text ↔ text = decodeLossy octets := by
  constructor
  · exact fun reading => reading.unique (decodes_decodeLossy octets)
  · rintro rfl
    exact decodes_decodeLossy octets

/-! ## Newlines -/

/-- What begins in front of a newline either ends there or goes beyond it. -/
theorem prefix_append_cases {front more rest : List UInt8} {b : UInt8}
    (h : front <+: more ++ b :: rest) : front <+: more ∨ b ∈ front := by
  by_cases short : front.length ≤ more.length
  · exact .inl (List.prefix_of_prefix_length_le h (List.prefix_append _ _) short)
  · have within : more ++ [b] <+: front := by
      refine List.prefix_of_prefix_length_le ⟨rest, by simp⟩ h ?_
      rw [List.length_append, List.length_singleton]
      omega
    exact .inr (within.subset (by simp))

/-- Nothing that begins a character goes beyond a newline in front of which something stands. -/
theorem Begins.before_newline {front more rest : List UInt8} (begins : Begins front)
    (some : more ≠ []) (h : front <+: more ++ 10 :: rest) : front <+: more := by
  rcases prefix_append_cases h with within | beyond
  · exact within
  · obtain ⟨c, begun⟩ := begins
    obtain rfl := eq_newline_of_mem (begun.subset beyond)
    have short : front.length ≤ 1 := begun.length_le
    have long : 0 < more.length := List.length_pos_iff.mpr some
    exact List.prefix_of_prefix_length_le h (List.prefix_append _ _) (by omega)

/-- A newline stands for itself, whatever is in front of it. -/
theorem Decodes.newline {front back : List UInt8} {s t : List Char} (first : Decodes front s)
    (second : Decodes back t) : Decodes (front ++ 10 :: back) (s ++ '\n' :: t) := by
  induction first with
  | done =>
    have alone := Decodes.character '\n' second
    rwa [encode_newline] at alone
  | @character c rest s others ih =>
    rw [List.append_assoc]
    exact .character c ih
  | @mark bad rest s broken some part longest others ih =>
    have nonempty : bad ++ rest ≠ [] := by simp [some]
    rw [List.append_assoc]
    refine .mark (fun c whole => broken c ?_) some part (fun front here begins => ?_) ih
    · rw [← List.append_assoc] at whole
      exact Begins.before_newline ⟨c, List.prefix_rfl⟩ nonempty whole
    · rw [← List.append_assoc] at here
      exact longest front (begins.before_newline nonempty here) begins

theorem Decodes.newline_mem {octets : List UInt8} {text : List Char} (reading : Decodes octets text)
    (h : '\n' ∈ text) : 10 ∈ octets := by
  induction reading with
  | done => cases h
  | character c others ih =>
    rw [List.mem_append]
    rcases List.mem_cons.mp h with rfl | h
    · exact .inl (by rw [encode_newline]; exact List.mem_singleton_self 10)
    · exact .inr (ih h)
  | mark broken some part longest others ih =>
    rcases List.mem_cons.mp h with same | h
    · exact absurd same (by decide)
    · exact List.mem_append_right _ (ih h)

theorem Decodes.eq_nil {octets : List UInt8} (reading : Decodes octets []) : octets = [] := by
  cases reading
  rfl

theorem decodeLossy_newline (front back : List UInt8) :
    decodeLossy (front ++ 10 :: back) = decodeLossy front ++ '\n' :: decodeLossy back :=
  (decodes_iff.mp ((decodes_decodeLossy front).newline (decodes_decodeLossy back))).symm

end Testbed.Text
