import Mathlib.Logic.Function.Basic
import Testbed.Log.Record
import Testbed.Proofs.Dsn
import Testbed.Proofs.JsonValue

/-!
# Records that are read back from their JSON lines

A record is written as an object of strings. A reader finds its members in the line in ascending
order of the keys, each with the text that was put there last. Every line break is escaped, so the
record is one line whatever its texts are.
-/

namespace Testbed

namespace Json

/-! ## Objects of strings -/

/-- Lexemes with nothing between them. -/
def compact (ls : List Lexeme) : List Char :=
  ls.flatMap Lexeme.written

theorem layout_compact {ls : List Lexeme} (plain : ∀ l ∈ ls, l.isNumber = false) :
    Layout ls (compact ls) := by
  induction ls with
  | nil => exact .nil
  | cons l ls ih =>
    obtain ⟨first, others⟩ := List.forall_mem_cons.mp plain
    have ends : l.isNumber = true → Ends (compact ls) := by simp [first]
    exact .cons l ends (ih others)

def strings (members : List (String × String)) : Value :=
  .object (members.map fun m => (m.1, .string m.2))

theorem isNumber_members (members : List (String × String)) (first : Bool) :
    ∀ l ∈ memberLexemes first (members.map fun m => (m.1, Value.string m.2)),
      l.isNumber = false := by
  induction members generalizing first with
  | nil => simp [memberLexemes, Lexeme.isNumber]
  | cons m members ih =>
    have own : ∀ l ∈ (if first then [] else [Lexeme.comma]) ++ [.string m.1, .colon, .string m.2],
        l.isNumber = false := by
      cases first <;> simp [Lexeme.isNumber]
    intro l mem
    rcases List.mem_append.mp mem with here | later
    · exact own l here
    · exact ih false l later

theorem isNumber_strings (members : List (String × String)) :
    ∀ l ∈ (strings members).lexemes, l.isNumber = false := by
  rw [strings, Value.lexemes]
  exact List.forall_mem_cons.mpr ⟨rfl, isNumber_members members true⟩

theorem toList_memberText (m : String × String) : (memberText m.1 m.2).toList =
    compact [.string m.1, .colon, .string m.2] := by
  simp [memberText, compact, Lexeme.written]

/-- The members behind the first one, and the end of the object. -/
theorem compact_later (members : List (String × String)) :
    compact (memberLexemes false (members.map fun m => (m.1, Value.string m.2))) =
      (members.flatMap fun m => ',' :: (memberText m.1 m.2).toList) ++ ['\x7d'] := by
  induction members with
  | nil => rfl
  | cons m members ih =>
    rw [List.map_cons, memberLexemes, compact, List.flatMap_append, List.flatMap_cons]
    rw [compact] at ih
    rw [ih, toList_memberText, List.append_assoc]
    rfl

theorem toList_intercalate (first : String) (others : List String) :
    (String.intercalate "," (first :: others)).toList =
      first.toList ++ others.flatMap fun text => ',' :: text.toList := by
  induction others generalizing first with
  | nil => simp
  | cons next others ih =>
    rw [String.intercalate_cons_cons, String.toList_append, ih next, List.flatMap_cons]
    simp

theorem toList_objectText (members : List (String × String)) :
    (objectText members).toList = compact (strings members).lexemes := by
  have opened (ls : List Lexeme) : compact (.openObject :: ls) = '\x7b' :: compact ls := rfl
  rw [strings, Value.lexemes, opened]
  cases members with
  | nil => simp [objectText, memberLexemes, compact, Lexeme.written]
  | cons m members =>
    have later := compact_later members
    have inner : compact (memberLexemes true ((m :: members).map fun m => (m.1, .string m.2))) =
        (memberText m.1 m.2).toList ++ compact
          (memberLexemes false (members.map fun m => (m.1, Value.string m.2))) := by
      rw [List.map_cons, memberLexemes, compact, List.flatMap_append, toList_memberText]
      rfl
    rw [inner, later, objectText, List.map_cons, String.toList_append, String.toList_append,
      toList_intercalate, List.flatMap_map]
    simp

theorem spells_objectText (members : List (String × String)) :
    Spells (objectText members) (strings members) := by
  apply spells_of_layout
  rw [toList_objectText]
  exact layout_compact (isNumber_strings members)

/-! ## Reading them -/

def stringOf? (s : Document.Scalar) : Option String :=
  match s.meaning with
  | .ok (.text t) => some t
  | _ => none

/-- The members up to the end of an object, if they are strings. -/
def stringMembers? : List Document.Event → Option (List (String × String))
  | [.close] => some []
  | .scalar key :: .scalar value :: rest => do
    let key ← stringOf? key
    let value ← stringOf? value
    let others ← stringMembers? rest
    return (key, value) :: others
  | _ => none

/-- The members of the object of strings that a text holds, in the order of the text. -/
def readStrings? (text : String) : Option (List (String × String)) :=
  let d := document text
  match d.complete, d.events.toList with
  | true, .openMapping false :: rest => stringMembers? rest
  | _, _ => none

def stringEvents (members : List (String × String)) : List Document.Event :=
  (members.flatMap fun m => [.scalar (stringScalar m.1), .scalar (stringScalar m.2)]) ++ [.close]

theorem memberEvents_strings (depth : Nat) (members : List (String × String)) :
    memberEvents depth (members.map fun m => (m.1, Value.string m.2)) =
      (stringEvents members, true) := by
  induction members with
  | nil => rfl
  | cons m members ih =>
    rw [List.map_cons, memberEvents, ih]
    rfl

theorem stringMembers?_stringEvents (members : List (String × String)) :
    stringMembers? (stringEvents members) = some members := by
  induction members with
  | nil => rfl
  | cons m members ih =>
    change (do
      let others ← stringMembers? (stringEvents members)
      return (m.1, m.2) :: others) = _
    rw [ih]
    rfl

/-- An object of strings is read back as it was written. -/
theorem readStrings?_objectText (members : List (String × String)) :
    readStrings? (objectText members) = some members := by
  have events : (strings members).events 0 =
      (.openMapping false :: stringEvents members, true) := by
    rw [strings, Value.events, memberEvents_strings]
    rfl
  unfold readStrings?
  rw [document_of_spells (spells_objectText members), events]
  exact stringMembers?_stringEvents members

/-! ## Line breaks -/

theorem newline_not_mem_escape (c : Char) : '\n' ∉ escape c := by
  rcases escape_cases c with ⟨d, -, undone, same⟩ | ⟨control, same⟩ | ⟨-, -, visible, same⟩
  · rw [same]
    intro mem
    have letter : d = '\n' := by simpa [eq_comm] using mem
    rw [letter] at undone
    cases undone
  · rw [same]
    have digits : ∀ n < 32, '\n' ∉ '\\' :: 'u' :: fourDigits n := by decide
    exact digits c.toNat control
  · rw [same, List.mem_singleton]
    rintro rfl
    exact absurd visible (by decide)

/-- Nothing but a number, which has none either, could bring a line break into a line. -/
theorem newline_not_mem_written {l : Lexeme} (plain : l.isNumber = false) : '\n' ∉ l.written := by
  cases l with
  | number n => cases plain
  | string s => simp [Lexeme.written, stringText, newline_not_mem_escape]
  | flag b => cases b <;> simp [Lexeme.written]
  | _ => simp [Lexeme.written]

theorem newline_not_mem_objectText (members : List (String × String)) :
    '\n' ∉ (objectText members).toList := by
  rw [toList_objectText, compact, List.mem_flatMap]
  rintro ⟨l, mem, newline⟩
  exact newline_not_mem_written (isNumber_strings members l mem) newline

end Json

/-! ## Objects that are updated -/

/-- The object after all fields have been put, each replacing what is under its key. -/
def updated (object : String → Option String) (fields : List (String × String)) :
    String → Option String :=
  fields.foldl (fun object f => Function.update object f.1 (some f.2)) object

theorem find?_eq_some_iff_of_ascending {entries : List (String × String)}
    (ascending : Ascending entries) {key value : String} :
    entries.find? (·.1 = key) = some (key, value) ↔ (key, value) ∈ entries := by
  induction entries with
  | nil => simp
  | cons head rest ih =>
    obtain ⟨least, others⟩ := List.pairwise_cons.mp ascending
    rw [List.find?_cons]
    by_cases same : head.1 = key
    · have behind : (key, value) ∉ rest := by
        intro mem
        have less : head.1 < key := least (key, value) mem
        rw [same] at less
        exact absurd less (String.lt_irrefl key)
      simp [same, behind, eq_comm]
    · have other : (key, value) ≠ head := fun h => same (congrArg Prod.fst h).symm
      simp [same, other, ih others]

namespace Dictionary

theorem mem_entries_iff (d : Dictionary) (key value : String) :
    (key, value) ∈ d.entries ↔ d.get? key = some value := by
  rw [← find?_eq_some_iff_of_ascending d.ascending, get?, Option.map_eq_some_iff]
  constructor
  · exact fun found => ⟨_, found, rfl⟩
  · rintro ⟨⟨name, text⟩, found, rfl⟩
    have same : name = key := by simpa using List.find?_some found
    rwa [same] at found

/-- Pairs that are put one after the other update what is there. -/
theorem get?_putAll (d : Dictionary) (pairs : List (String × String)) :
    (d.putAll pairs).get? = updated d.get? pairs := by
  induction pairs generalizing d with
  | nil => rfl
  | cons pair pairs ih =>
    have put : (d.put pair.1 pair.2).get? = Function.update d.get? pair.1 (some pair.2) := by
      funext name
      rw [get?_put, Function.update_apply]
      simp only [eq_comm]
    have rest := ih (d.put pair.1 pair.2)
    rw [put] at rest
    exact rest

end Dictionary

namespace Log

theorem Record.get?_members (time : String) (r : Record) : (r.members time).get? =
    updated (updated (fun _ => none)
      [("time", time), ("level", r.level.name), ("msg", r.message)]) r.redacted := by
  rw [members, Dictionary.get?_putAll, Dictionary.ofPairs, Dictionary.get?_putAll]
  rfl

/-- A record at or above the threshold is one line, and a reader finds in it the time, the level and
the message, updated by the redacted fields in their order. Other records are not written. -/
theorem jsonLine_read_back (threshold : Level) (time : String) (r : Record) :
    (r.level.rank < threshold.rank → r.written ⟨.json, threshold⟩ time = "") ∧
    (threshold.rank ≤ r.level.rank → ∃ line members,
      r.written ⟨.json, threshold⟩ time = line ++ "\n" ∧ '\n' ∉ line.toList ∧
      Json.readStrings? line = some members ∧ Ascending members ∧
      ∀ key value, (key, value) ∈ members ↔
        updated (updated (fun _ => none)
            [("time", time), ("level", r.level.name), ("msg", r.message)])
          (r.fields.map fun f => (f.1, redact f.1 f.2)) key = some value) := by
  refine ⟨fun below => if_pos below, fun above => ?_⟩
  refine ⟨r.jsonLine time, (r.members time).entries, if_neg (Nat.not_lt.mpr above),
    Json.newline_not_mem_objectText _, Json.readStrings?_objectText _, (r.members time).ascending,
    fun key value => ?_⟩
  rw [Dictionary.mem_entries_iff, Record.get?_members]
  rfl

/-- Quotes, line breaks and control characters in the message, a field that replaces it, a field
that is there twice, and a secret. -/
theorem jsonLine_read_back_replaced :
    let r := warn "say \"a\\b\"\n\u0001😀"
      [("k", "1"), ("msg", "two\nlines"), ("Token", "x"), ("k", "2")]
    Level.info.rank ≤ r.level.rank ∧ ∃ line members,
      r.written ⟨.json, .info⟩ "now" = line ++ "\n" ∧ '\n' ∉ line.toList ∧
      Json.readStrings? line = some members ∧ Ascending members ∧
      ∀ member ∈ [("k", "2"), ("level", "WARN"), ("msg", "two\nlines"), ("Token", "REDACTED"),
        ("time", "now")], member ∈ members := by
  intro r
  have above : Level.info.rank ≤ r.level.rank := by decide
  obtain ⟨line, members, written, whole, read, ascending, object⟩ :=
    (jsonLine_read_back .info "now" r).2 above
  refine ⟨above, line, members, written, whole, read, ascending, fun member mem => ?_⟩
  apply (object member.1 member.2).mpr
  revert member
  decide +kernel

end Log

end Testbed
