import Testbed.Proofs.Dsn
import Testbed.Proofs.Parts
import Testbed.Proofs.Result
import Testbed.Proofs.Splitting

/-!
# Dotenv files that can be read

A reader takes a dotenv file line by line, cuts each line at its first equals sign and undoes the
escapes of a value between quotes. If no name has an equals sign or a line break, this gives back
exactly the variables that were written. Whatever the values are, each variable has one line: a line
break in a value is escaped, and a value without quotes has none.
-/

namespace Testbed

theorem Dictionary.ext {d other : Dictionary} (same : d.entries = other.entries) : d = other := by
  cases d
  cases other
  cases same
  rfl

namespace Dotenv

open Text

/-- What stands behind a backslash for which character. -/
def undone? (c : Char) : Option Char :=
  if c = 'n' then some '\n'
  else if c = '"' ∨ c = '\\' ∨ c = '$' then some c
  else none

/-- Undoes the escapes between quotes. No backslash stands for itself. -/
def unescape? : List Char → Option (List Char)
  | [] => some []
  | [c] => if c = '\\' then none else some [c]
  | c :: d :: rest =>
    if c = '\\' then (undone? d).bind fun c => (unescape? rest).map (c :: ·)
    else (unescape? (d :: rest)).map (c :: ·)

def readValue? (text : List Char) : Option (List Char) :=
  if text.head? = some '"' then unescape? text.tail.dropLast else some text

def readLine? (text : List Char) : Option (String × String) :=
  (cut? '=' text).bind fun (key, rest) =>
    (readValue? rest).map fun value => (String.ofList key, String.ofList value)

/-- The variables that a reader finds in a file, line by line. -/
def read? (text : String) : Option (List (String × String)) :=
  (terminatedBy '\n' text.toList).mapM readLine?

def lineText (entry : String × String) : List Char :=
  entry.1.toList ++ '=' :: (valueText entry.2).toList

/-- No name makes a line look like something else. -/
def Writable (environment : Dictionary) : Prop :=
  ∀ entry ∈ environment.entries, '=' ∉ entry.1.toList ∧ '\n' ∉ entry.1.toList

theorem unescape?_of_ne {c : Char} (h : c ≠ '\\') (rest : List Char) :
    unescape? (c :: rest) = (unescape? rest).map (c :: ·) := by
  cases rest with
  | nil => simp [unescape?, h]
  | cons d rest => rw [unescape?, if_neg h]

/-- A character is written behind a backslash, as a line break or as it is. -/
theorem escape_cases (c : Char) :
    (undone? c = some c ∧ c ≠ '\n' ∧ escape c = ['\\', c]) ∨
      (c = '\n' ∧ escape c = ['\\', 'n']) ∨
      (c ≠ '\\' ∧ c ≠ '\n' ∧ escape c = [c]) := by
  unfold escape
  split
  · rename_i special
    refine .inl ⟨?_, ?_, rfl⟩ <;>
      simp only [Bool.or_eq_true, decide_eq_true_eq] at special <;>
      rcases special with (rfl | rfl) | rfl <;> decide
  · rename_i special
    simp only [Bool.or_eq_true, decide_eq_true_eq, not_or] at special
    split
    · exact .inr (.inl ⟨‹_›, rfl⟩)
    · exact .inr (.inr ⟨special.1.2, ‹_›, rfl⟩)

theorem unescape?_escape (c : Char) (rest : List Char) :
    unescape? (escape c ++ rest) = (unescape? rest).map (c :: ·) := by
  rcases escape_cases c with ⟨undone, -, same⟩ | ⟨rfl, same⟩ | ⟨other, -, same⟩
  · rw [same]
    change unescape? ('\\' :: c :: rest) = _
    rw [unescape?, if_pos rfl, undone, Option.bind_some]
  · rw [same]
    rfl
  · rw [same]
    exact unescape?_of_ne other rest

theorem unescape?_flatMap_escape (value : List Char) :
    unescape? (value.flatMap escape) = some value := by
  induction value with
  | nil => rfl
  | cons c value ih => rw [List.flatMap_cons, unescape?_escape, ih, Option.map_some]

/-- A value is written as it is if nothing in it needs quotes, and then it is not taken for one
between quotes. -/
theorem valueText_cases (value : String) :
    (valueText value).toList = '"' :: value.toList.flatMap escape ++ ['"'] ∨
      valueText value = value ∧ ∀ c ∈ value.toList, needsQuotes c = false := by
  unfold valueText
  split
  · exact .inl (by simp)
  · rename_i plain
    exact .inr ⟨rfl, by simpa using plain⟩

theorem readValue?_valueText (value : String) :
    readValue? (valueText value).toList = some value.toList := by
  unfold readValue?
  rcases valueText_cases value with quoted | ⟨same, plain⟩
  · rw [quoted]
    simpa using unescape?_flatMap_escape value.toList
  · rw [same, if_neg]
    intro head
    have mem : '"' ∈ value.toList := List.mem_of_mem_head? head
    cases plain _ mem

theorem newline_not_mem_escape (c : Char) : '\n' ∉ escape c := by
  rcases escape_cases c with ⟨-, other, same⟩ | ⟨-, same⟩ | ⟨-, other, same⟩ <;> rw [same]
  · simpa using other.symm
  · decide
  · simpa using other.symm

theorem newline_not_mem_valueText (value : String) : '\n' ∉ (valueText value).toList := by
  rcases valueText_cases value with quoted | ⟨same, plain⟩
  · rw [quoted]
    simp [newline_not_mem_escape]
  · rw [same]
    intro mem
    cases plain _ mem

theorem readLine?_lineText {entry : String × String} (h : '=' ∉ entry.1.toList) :
    readLine? (lineText entry) = some entry := by
  rw [readLine?, lineText, cut?_append h]
  simp [readValue?_valueText]

theorem toList_render (environment : Dictionary) :
    (render environment).toList =
      (environment.entries.map lineText).flatMap fun text => text ++ ['\n'] := by
  simp [render, line, lineText, String.toList_join, List.flatMap_map]

/-- There is one line for every variable. -/
theorem lines_render {environment : Dictionary} (writable : Writable environment) :
    terminatedBy '\n' (render environment).toList = environment.entries.map lineText := by
  rw [toList_render, terminatedBy_flatMap]
  refine List.forall_mem_map.mpr fun entry mem => ?_
  simp [lineText, (writable entry mem).2, newline_not_mem_valueText]

theorem read?_render {environment : Dictionary} (writable : Writable environment) :
    read? (render environment) = some environment.entries := by
  rw [read?, lines_render writable, mapM_eq_some_iff, List.map_map]
  exact List.map_congr_left fun entry mem => readLine?_lineText (writable entry mem).1

theorem render_injective {environment other : Dictionary} (writable : Writable environment)
    (otherWritable : Writable other) (same : render environment = render other) :
    environment = other := by
  have read := read?_render writable
  rw [same, read?_render otherWritable] at read
  exact Dictionary.ext (Option.some.inj read).symm

/-- A value that does not stand between quotes has nothing in it that a shell reads specially. -/
theorem plain_of_unquoted {value : String} (unquoted : (valueText value).toList.head? ≠ some '"') :
    ∀ c ∈ (valueText value).toList,
      isBlank c = false ∧ c ∉ ['"', '\'', '#', '\\', '$'] := by
  rcases valueText_cases value with quoted | ⟨same, plain⟩
  · exact absurd (by rw [quoted]; rfl) unquoted
  · rw [same]
    intro c mem
    have none := plain c mem
    simp only [needsQuotes, Bool.or_eq_false_iff, beq_eq_false_iff_ne] at none
    simp [none]

theorem Writable.put {environment : Dictionary} (h : Writable environment) {key : String}
    (plain : '=' ∉ key.toList ∧ '\n' ∉ key.toList) (value : String) :
    Writable (environment.put key value) := by
  intro entry mem
  rcases mem_putEntry mem with rfl | mem
  · exact plain
  · exact h entry mem

theorem Writable.putAll {environment : Dictionary} (h : Writable environment)
    {pairs : List (String × String)}
    (plain : ∀ pair ∈ pairs, '=' ∉ pair.1.toList ∧ '\n' ∉ pair.1.toList) :
    Writable (environment.putAll pairs) := by
  induction pairs generalizing environment with
  | nil => exact h
  | cons pair pairs ih =>
    obtain ⟨first, others⟩ := List.forall_mem_cons.mp plain
    exact ih (h.put first pair.2) others

theorem writable_environment (dsn : String) (modulePath : Option String) :
    Writable (AppEnv.environment dsn modulePath) := by
  have base : Writable (Dictionary.ofPairs [(AppEnv.dsnName, dsn), (AppEnv.flatNodeName, ""),
      (AppEnv.importStyleName, "full"), (AppEnv.tigerDataName, "yes")]) := by
    have nothing : Writable Dictionary.empty := fun _ mem => nomatch mem
    refine nothing.putAll ?_
    simp [AppEnv.dsnName, AppEnv.flatNodeName, AppEnv.importStyleName, AppEnv.tigerDataName]
  cases modulePath with
  | none => exact base
  | some path => exact base.put (by simp [AppEnv.modulePathName]) path

end Dotenv

namespace Fixture

open Dotenv

variable {σ Session : Type}

/-- The file that was written last tells a script its variables. -/
theorem Course.told {p : Plan} {B : Backend σ Session} {b b' : Bench σ}
    {pre post : List (Event Session)} {i : Script.Invocation} {answer : Except Failure Unit}
    (h : Course p B b (pre ++ .ranScript i answer :: post) b') (fresh : b.fixture = {}) :
    (dotenvAfter none pre).elim (some []) read? = some i.environment.entries := by
  obtain ⟨m, -, before, -, given, -⟩ := h.script
  have written := before.dotenv
  have configured := before.configured (State.configured_of (.inl (by rw [fresh])))
  rw [fresh] at written
  change _ = dotenvAfter none pre at written
  rw [← written, given]
  unfold State.childVariables
  cases has : m.fixture.environment with
  | none => rfl
  | some environment =>
    obtain ⟨database, rfl⟩ := configured environment has
    exact read?_render (writable_environment _ _)

end Fixture

namespace Dotenv

open Text Fixture

/-- What can be relied on for a file with the given variables. -/
structure Legible (environment : Dictionary) : Prop where
  read : read? (render environment) = some environment.entries
  ascending : Ascending environment.entries
  lines : terminatedBy '\n' (render environment).toList = environment.entries.map lineText
  alone : ∀ other, Writable other → render other = render environment → other = environment

theorem legible_of_writable {environment : Dictionary} (writable : Writable environment) :
    Legible environment where
  read := read?_render writable
  ascending := environment.ascending
  lines := lines_render writable
  alone _ otherWritable same := render_injective otherWritable writable same

/-- Every dictionary with names that can be written is read back from its file, and so are the
variables of the application. Every script of every run has exactly the variables that are read from
the file that was written last, or none if no file was written. -/
theorem render_legible {σ Session : Type} (p : Plan) (B : Backend σ Session) :
    (∀ environment, Writable environment → Legible environment) ∧
    (∀ value, (valueText value).toList.head? ≠ some '"' → ∀ c ∈ (valueText value).toList,
      isBlank c = false ∧ c ∉ ['"', '\'', '#', '\\', '$']) ∧
    (∀ dsn modulePath, Writable (AppEnv.environment dsn modulePath) ∧
      Legible (AppEnv.environment dsn modulePath)) ∧
    ∀ (ops : List (Operation Session)) (w : σ) (pre : List (Event Session)) (i : Script.Invocation)
      (answer : Except Failure Unit) (post : List (Event Session)),
      (Operation.run p B.watched ops { world := { world := w } }).2.world.events =
        pre ++ .ranScript i answer :: post →
      (dotenvAfter none pre).elim (some []) read? = some i.environment.entries := by
  have application (dsn : String) (modulePath : Option String) :
      Writable (AppEnv.environment dsn modulePath) ∧
        Legible (AppEnv.environment dsn modulePath) :=
    ⟨writable_environment dsn modulePath, legible_of_writable (writable_environment dsn modulePath)⟩
  refine ⟨fun _ => legible_of_writable, fun _ => plain_of_unquoted, application, ?_⟩
  intro ops w pre i answer post split
  obtain ⟨es, course, noted⟩ := run_course (p := p) (B := B) ops { world := { world := w } }
  obtain rfl : pre ++ .ranScript i answer :: post = es := by simpa [split] using noted
  exact course.told rfl

/-- Values with all that has to be escaped, and with a carriage return, which has not. -/
example :
    let environment := Dictionary.ofPairs [("B", "say \"a\\b\"\n$c=d\r"), ("A", "")]
    render environment = "A=\nB=\"say \\\"a\\\\b\\\"\\n\\$c=d\r\"\n" ∧
      read? (render environment) = some [("A", ""), ("B", "say \"a\\b\"\n$c=d\r")] := by
  decide +kernel

end Dotenv

end Testbed
