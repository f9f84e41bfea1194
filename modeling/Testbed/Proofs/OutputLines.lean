import Mathlib.Data.List.DropRight
import Testbed.Job.Output
import Testbed.Proofs.Splitting
import Testbed.Proofs.Utf8

/-!
# The lines of a stream

A stream is told line by line, and each line is decoded on its own. That is the same as if the whole
stream had been decoded at once and its text had been cut into lines: a newline ends whatever
sequence has begun in front of it, so nothing that is broken reaches beyond its line.
-/

namespace Testbed

namespace Text

theorem newline_not_mem_decodeLossy {octets : List UInt8} (h : 10 ∉ octets) :
    '\n' ∉ decodeLossy octets :=
  fun mem => h ((decodes_decodeLossy octets).newline_mem mem)

theorem decodeLossy_eq_nil_iff {octets : List UInt8} : decodeLossy octets = [] ↔ octets = [] := by
  constructor
  · intro empty
    have reading := decodes_decodeLossy octets
    rw [empty] at reading
    exact reading.eq_nil
  · rintro rfl
    rfl

/-- Lines are decoded one by one. -/
theorem decodeLossy_lines (lines : List (List UInt8)) (rest : List UInt8) :
    decodeLossy (lines.flatMap (· ++ [10]) ++ rest) =
      (lines.map decodeLossy).flatMap (· ++ ['\n']) ++ decodeLossy rest := by
  induction lines with
  | nil => rfl
  | cons line lines ih =>
    have first := decodeLossy_newline line (lines.flatMap (· ++ [10]) ++ rest)
    rw [ih] at first
    simpa using first

theorem terminatedBy_decodeLossy (octets : List UInt8) :
    terminatedBy '\n' (decodeLossy octets) = (terminatedBy 10 octets).map decodeLossy := by
  obtain ⟨lines, rest, clean, last, rfl⟩ := exists_lines 10 octets
  have cleanText : ∀ line ∈ lines.map decodeLossy, '\n' ∉ line :=
    List.forall_mem_map.mpr fun line mem => newline_not_mem_decodeLossy (clean line mem)
  rw [decodeLossy_lines, terminatedBy_clean cleanText (newline_not_mem_decodeLossy last),
    terminatedBy_clean clean last, List.map_append]
  simp only [decodeLossy_eq_nil_iff]
  split <;> rfl

end Text

namespace Job

open Text

/-- The message for a part of a stream, with its end or without. -/
def messageOf (part : List UInt8) : String :=
  String.ofList ((decodeLossy part).rdropWhile fun c => c = '\n' ∨ c = '\r')

/-- In a text without newlines only carriage returns are dropped. -/
theorem rdropWhile_eq_dropReturns {s : List Char} (h : '\n' ∉ s) :
    (s.rdropWhile fun c => c = '\n' ∨ c = '\r') = dropReturns s := by
  have run (t : List Char) (clean : '\n' ∉ t) :
      (t.dropWhile fun c => c = '\n' ∨ c = '\r') = t.dropWhile (· = '\r') := by
    induction t with
    | nil => rfl
    | cons c t ih =>
      obtain ⟨other, rest⟩ := not_or.mp (mt List.mem_cons.mpr clean)
      rw [List.dropWhile_cons, List.dropWhile_cons, ih rest]
      simp [Ne.symm other]
  rw [List.rdropWhile, dropReturns, run _ (by simpa using h)]

/-- The end of a line is not told. -/
theorem messageOf_ended {segment : List UInt8} (clean : 10 ∉ segment) :
    messageOf (segment ++ [10]) = String.ofList (dropReturns (decodeLossy segment)) := by
  have ended : decodeLossy (segment ++ [10]) = decodeLossy segment ++ ['\n'] :=
    decodeLossy_newline segment []
  have dropped : ((decodeLossy segment ++ ['\n']).rdropWhile fun c => c = '\n' ∨ c = '\r') =
      (decodeLossy segment).rdropWhile fun c => c = '\n' ∨ c = '\r' :=
    List.rdropWhile_concat_pos _ _ _ (by decide)
  rw [messageOf, ended, dropped, rdropWhile_eq_dropReturns (newline_not_mem_decodeLossy clean)]

theorem messageOf_clean {rest : List UInt8} (clean : 10 ∉ rest) :
    messageOf rest = String.ofList (dropReturns (decodeLossy rest)) := by
  rw [messageOf, rdropWhile_eq_dropReturns (newline_not_mem_decodeLossy clean)]

/-- The lines of a stream, taken off it with their ends. -/
theorem lines_append {segments : List (List UInt8)} {rest : List UInt8}
    (clean : ∀ segment ∈ segments, 10 ∉ segment) (last : 10 ∉ rest) :
    lines (segments.flatMap (· ++ [10]) ++ rest) =
      (segments.map (· ++ [10]) ++ if rest = [] then [] else [rest]).map messageOf := by
  have ended : segments.map (fun segment => String.ofList (dropReturns (decodeLossy segment))) =
      (segments.map (· ++ [10])).map messageOf := by
    rw [List.map_map]
    exact List.map_congr_left fun segment mem => (messageOf_ended (clean segment mem)).symm
  rw [lines, terminatedBy_clean clean last, List.map_append, List.map_append, ended]
  split
  · rfl
  · rw [List.map_singleton, List.map_singleton, messageOf_clean last]

theorem lines_eq (octets : List UInt8) :
    lines octets = (terminatedBy '\n' (decodeLossy octets)).map fun piece =>
      String.ofList (dropReturns piece) := by
  rw [terminatedBy_decodeLossy, List.map_map]
  rfl

theorem newline_not_mem_lines {octets : List UInt8} {line : String} (h : line ∈ lines octets) :
    '\n' ∉ line.toList := by
  obtain ⟨piece, mem, rfl⟩ := List.mem_map.mp h
  obtain ⟨segments, rest, clean, last, rfl⟩ := exists_lines 10 octets
  have kept : 10 ∉ piece := by
    rw [terminatedBy_clean clean last] at mem
    rcases List.mem_append.mp mem with segment | remainder
    · exact clean piece segment
    · split at remainder
      · cases remainder
      · rwa [List.mem_singleton.mp remainder]
  rw [String.toList_ofList, dropReturns, List.mem_reverse]
  intro mem
  have found := (List.dropWhile_sublist _).subset mem
  exact newline_not_mem_decodeLossy kept (List.mem_reverse.mp found)

/-- Whatever a process writes to a stream, its lines are told one by one and in order, the last one
also if it has no end. That is the same as decoding all of it at once and cutting the text into
lines. No line of the log comes from more or from less than one line of the stream. -/
theorem stream_line_by_line (stream : Stream) (octets : List UInt8) :
    (∀ text, Decodes octets text ↔ text = decodeLossy octets) ∧
    (∀ text, Decodes octets text →
      records stream octets = (terminatedBy '\n' text).map fun piece =>
        Log.info (String.ofList (piece.rdropWhile (· = '\r'))) [("stream", stream.name)]) ∧
    (∀ (segments : List (List UInt8)) (rest : List UInt8),
      (∀ segment ∈ segments, 10 ∉ segment) → 10 ∉ rest →
      octets = segments.flatMap (· ++ [10]) ++ rest →
      records stream octets =
        (segments.map (· ++ [10]) ++ if rest = [] then [] else [rest]).map fun part =>
          Log.info (messageOf part) [("stream", stream.name)]) ∧
    (∀ front back, octets = front ++ 10 :: back →
      records stream octets = records stream (front ++ [10]) ++ records stream back) ∧
    ∀ r ∈ records stream octets, '\n' ∉ r.message.toList := by
  refine ⟨fun text => decodes_iff, ?_, ?_, ?_, ?_⟩
  · intro text reading
    rw [decodes_iff.mp reading, records, lines_eq, List.map_map]
    rfl
  · rintro segments rest clean last rfl
    rw [records, lines_append clean last, List.map_map]
    rfl
  · rintro front back rfl
    have apart : lines (front ++ 10 :: back) = lines (front ++ [10]) ++ lines back := by
      rw [lines, lines, lines, terminatedBy_append_sep, terminatedBy_append_sep, terminatedBy_nil,
        List.append_nil, List.map_append]
    rw [records, records, records, apart, List.map_append]
  · intro r mem
    obtain ⟨line, told, rfl⟩ := List.mem_map.mp mem
    exact newline_not_mem_lines told

/-- A sequence that breaks off in front of a newline, an octet that is no text in front of two
carriage returns, an empty line, and a line without an end. -/
theorem stream_line_by_line_broken :
    let segments : List (List UInt8) := [[0x63, 0xE2, 0x82], [0xE9, 13, 13], []]
    let rest : List UInt8 := [0x61]
    let octets := segments.flatMap (· ++ [10]) ++ rest
    let mark := replacement
    let text : List Char := ['c', mark, '\n', mark, '\r', '\r', '\n', '\n', 'a']
    (∀ segment ∈ segments, 10 ∉ segment) ∧ 10 ∉ rest ∧ Decodes octets text ∧
      records .stderr octets = (["c\uFFFD", "\uFFFD", "", "a"].map fun line =>
        Log.info line [("stream", "stderr")]) ∧
      records .stderr octets = ((segments.map (· ++ [10]) ++ [rest]).map fun part =>
        Log.info (messageOf part) [("stream", "stderr")]) ∧
      records .stderr octets = records .stderr [0x63, 0xE2, 0x82, 10] ++
        records .stderr [0xE9, 13, 13, 10, 10, 0x61] := by
  intro segments rest octets mark text
  obtain ⟨reading, told, parts, apart, -⟩ := stream_line_by_line .stderr octets
  have decoded : Decodes octets text := (reading text).mpr (by decide +kernel)
  have clean : (∀ segment ∈ segments, 10 ∉ segment) ∧ 10 ∉ rest := by decide +kernel
  have lines : records .stderr octets = ["c\uFFFD", "\uFFFD", "", "a"].map fun line =>
      Log.info line [("stream", "stderr")] := by
    rw [told text decoded]
    decide +kernel
  exact ⟨clean.1, clean.2, decoded, lines, parts segments rest clean.1 clean.2 rfl,
    apart [0x63, 0xE2, 0x82] _ rfl⟩

end Job

end Testbed
