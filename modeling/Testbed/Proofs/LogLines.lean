import Testbed.Log.Timestamp
import Testbed.Proofs.JsonRecord
import Testbed.Proofs.Numerals
import Testbed.Proofs.Splitting

/-!
# The lines of a log

A log as text has one line for each record that is written, and the line begins with the time and
the level, if and only if no message, key or value that is shown has a line break. Texts are not
escaped there, so every line break in one of them begins a line of its own. As JSON a log always has
one line for each record.
-/

namespace Testbed

open Text

/-- Lists with equally many occurrences, one by one, have equally many together. -/
theorem Text.count_flatMap_congr {α β : Type} [DecidableEq β] {f g : α → List β} {b : β}
    (same : ∀ a, (f a).count b = (g a).count b) (s : List α) :
    (s.flatMap f).count b = (s.flatMap g).count b := by
  rw [List.count_flatMap, List.count_flatMap]
  simp only [Function.comp_def, same]

namespace Log

theorem newline_not_mem_timestamp (seconds : Nat) : '\n' ∉ (timestamp seconds).toList := by
  have number (width n : Nat) : '\n' ∉ padded width n :=
    fun mem => absurd (isDigit_of_mem_padded mem) (by decide)
  rw [timestamp, String.toList_ofList]
  simp only [List.mem_append, List.mem_cons, number, Char.reduceEq, List.not_mem_nil, or_self,
    not_false_eq_true]

namespace Record

/-- The texts that are shown of the record, one after the other. -/
def content (r : Record) : List Char :=
  r.message.toList ++ r.redacted.flatMap fun f => f.1.toList ++ f.2.toList

/-- No text that is shown of the record has a line break. -/
def OneLine (r : Record) : Prop :=
  '\n' ∉ r.message.toList ∧ ∀ f ∈ r.redacted, '\n' ∉ f.1.toList ∧ '\n' ∉ f.2.toList

theorem newline_not_mem_content_iff (r : Record) : '\n' ∉ r.content ↔ r.OneLine := by
  simp only [content, OneLine, List.mem_append, List.mem_flatMap, not_or, not_exists, not_and]

def heading (time : String) (r : Record) : String :=
  time ++ " [" ++ r.level.name ++ "] "

def fieldText (f : String × String) : List Char :=
  ' ' :: f.1.toList ++ '=' :: f.2.toList

theorem toList_textLine (time : String) (r : Record) : (r.textLine time).toList =
    (r.heading time).toList ++ r.message.toList ++ r.redacted.flatMap fieldText := by
  have fold (fields : List (String × String)) (line : String) :
      (fields.foldl (fun line f => line ++ " " ++ f.1 ++ "=" ++ f.2) line).toList =
        line.toList ++ fields.flatMap fieldText := by
    induction fields generalizing line with
    | nil => simp
    | cons f fields ih =>
      rw [List.foldl_cons, ih]
      simp [fieldText]
  rw [textLine, fold, heading, String.toList_append]

theorem newline_not_mem_heading (r : Record) {time : String} (h : '\n' ∉ time.toList) :
    '\n' ∉ (r.heading time).toList := by
  have level (l : Level) : '\n' ∉ l.name.toList := by cases l <;> decide
  simp [heading, h, level]

/-- All line breaks of a line come from the texts that are shown. -/
theorem count_textLine (r : Record) {time : String} (h : '\n' ∉ time.toList) :
    (r.textLine time).toList.count '\n' = r.content.count '\n' := by
  have fields : (r.redacted.flatMap fieldText).count '\n' =
      (r.redacted.flatMap fun f => f.1.toList ++ f.2.toList).count '\n' :=
    count_flatMap_congr (by simp [fieldText, List.count_append]) r.redacted
  rw [toList_textLine, List.count_append, List.count_append, fields,
    List.count_eq_zero.mpr (r.newline_not_mem_heading h), Nat.zero_add, content, List.count_append]

end Record

/-- A record and the second in which it is told. -/
structure Call where
  seconds : Nat
  record : Record

def Call.heading (call : Call) : String :=
  call.record.heading (timestamp call.seconds)

def Call.line (style : Style) (call : Call) : List Char :=
  (call.record.line style (timestamp call.seconds)).toList

def logText (settings : Settings) (calls : List Call) : String :=
  String.join (calls.map fun call => call.record.written settings (timestamp call.seconds))

/-- The calls that are not below the threshold. -/
def told (threshold : Level) (calls : List Call) : List Call :=
  calls.filter fun call => threshold.rank ≤ call.record.level.rank

def textLines (text : String) : List (List Char) :=
  terminatedBy '\n' text.toList

/-- There is one line for each call, and it begins with the time and the level. -/
structure LineOriented (calls : List Call) (text : String) : Prop where
  count : (textLines text).length = calls.length
  headed : ∀ (k : Nat) call, calls[k]? = some call →
    ∃ rest, (textLines text)[k]? = some (call.heading.toList ++ rest)

theorem Call.line_text (call : Call) : ∃ rest, call.line .text = call.heading.toList ++ rest := by
  rw [Call.line, Record.line, Record.toList_textLine, List.append_assoc]
  exact ⟨_, rfl⟩

theorem Call.count_line_text (call : Call) :
    (call.line .text).count '\n' = call.record.content.count '\n' :=
  call.record.count_textLine (newline_not_mem_timestamp call.seconds)

theorem Call.newline_not_mem_line_json (call : Call) : '\n' ∉ call.line .json :=
  Json.newline_not_mem_objectText _

theorem toList_logText (settings : Settings) (calls : List Call) :
    (logText settings calls).toList =
      ((told settings.threshold calls).map (Call.line settings.style)).flatMap (· ++ ['\n']) := by
  rw [logText, told, String.toList_join, List.flatMap_map, List.flatMap_map]
  induction calls with
  | nil => rfl
  | cons call calls ih =>
    rw [List.flatMap_cons, ih, List.filter_cons, Record.written]
    by_cases below : call.record.level.rank < settings.threshold.rank
    · simp [below, Nat.not_le.mpr below]
    · simp [below, Nat.not_lt.mp below, Call.line]

/-- A log has the line of each call that is told, cut at the line breaks within it. -/
theorem textLines_logText (settings : Settings) (calls : List Call) :
    textLines (logText settings calls) =
      ((told settings.threshold calls).map (Call.line settings.style)).flatMap (splitOn '\n') := by
  have whole := terminatedBy_append '\n'
    ((told settings.threshold calls).map (Call.line settings.style)) []
  rwa [List.append_nil, terminatedBy_nil, List.append_nil, ← toList_logText] at whole

theorem lineOriented_of_lines {calls : List Call} {text : String}
    (lines : textLines text = calls.map (Call.line .text)) : LineOriented calls text where
  count := by rw [lines, List.length_map]
  headed k call here := by
    obtain ⟨rest, line⟩ := call.line_text
    exact ⟨rest, by rw [lines, List.getElem?_map, here, Option.map_some, line]⟩

/-- The lines of a log as text are those of the calls that are told, cut at every line break of a
message, a key or a value, so there are that many lines too many. There is one line for each call,
with its time and level, if and only if no such text has a line break. As JSON there always is. -/
theorem text_line_oriented_iff (threshold : Level) (calls : List Call) :
    textLines (logText ⟨.text, threshold⟩ calls) =
        ((told threshold calls).map (Call.line .text)).flatMap (splitOn '\n') ∧
      (textLines (logText ⟨.text, threshold⟩ calls)).length =
        (told threshold calls).length +
          ((told threshold calls).flatMap fun call => call.record.content).count '\n' ∧
      (LineOriented (told threshold calls) (logText ⟨.text, threshold⟩ calls) ↔
        ∀ call ∈ told threshold calls, call.record.OneLine) ∧
      textLines (logText ⟨.json, threshold⟩ calls) =
        (told threshold calls).map (Call.line .json) := by
  have lines := textLines_logText ⟨.text, threshold⟩ calls
  have length : (textLines (logText ⟨.text, threshold⟩ calls)).length =
      (told threshold calls).length +
        ((told threshold calls).flatMap fun call => call.record.content).count '\n' := by
    rw [lines, length_flatMap_splitOn, List.length_map, ← List.flatMap_def,
      count_flatMap_congr Call.count_line_text]
  have clean : (∀ line ∈ (told threshold calls).map (Call.line .text), '\n' ∉ line) ↔
      ∀ call ∈ told threshold calls, call.record.OneLine := by
    simp only [List.forall_mem_map, ← Record.newline_not_mem_content_iff, ← List.count_eq_zero,
      Call.count_line_text]
  refine ⟨lines, length, ⟨fun oriented => ?_, fun whole => ?_⟩, ?_⟩
  · rw [← clean, ← length_flatMap_splitOn_iff, ← lines, oriented.count, List.length_map]
  · exact lineOriented_of_lines (lines.trans (flatMap_splitOn_of_clean (clean.mpr whole)))
  · rw [textLines_logText]
    exact flatMap_splitOn_of_clean
      (List.forall_mem_map.mpr fun call _ => call.newline_not_mem_line_json)

/-- The name of a database ends the line early and brings a line that no call has made. -/
theorem value_begins_line :
    let call : Call :=
      ⟨0, info "dropping database" [("database", "x\n1970-01-01T00:00:00Z [ERROR] forged")]⟩
    textLines (logText ⟨.text, .info⟩ [call]) =
        ["1970-01-01T00:00:00Z [INFO] dropping database database=x".toList,
          "1970-01-01T00:00:00Z [ERROR] forged".toList] ∧
      ¬ LineOriented (told .info [call]) (logText ⟨.text, .info⟩ [call]) := by
  intro call
  have lines : textLines (logText ⟨.text, .info⟩ [call]) =
      ["1970-01-01T00:00:00Z [INFO] dropping database database=x".toList,
        "1970-01-01T00:00:00Z [ERROR] forged".toList] := by
    decide +kernel
  refine ⟨lines, fun oriented => ?_⟩
  have count := oriented.count
  rw [lines] at count
  exact absurd count (by decide +kernel)

end Log

end Testbed
