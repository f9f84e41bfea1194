import Testbed.Proofs.Splitting
import Testbed.Sql

/-!
# Statements that can be read

The server sees a statement as a text, and reads words, identifiers between double quotes and
single characters from it. Within an identifier two double quotes stand for one, and a double quote
that is not doubled ends it. So no name ends its identifier early, whatever it consists of, and the
server finds in each statement the names that were put into it, and no second statement.
-/

namespace Testbed.Sql

open Text

/-- What a text of statements is read as. The statements have no comments and no literals. -/
inductive Lexeme where
  | word (letters : String)
  | identifier (name : String)
  | symbol (c : Char)
  deriving DecidableEq, Repr

/-- What stands in front of the first quote that is not doubled, with one quote for two, and what
follows that quote. -/
def quotedRest? : List Char → Option (List Char × List Char)
  | [] => none
  | '"' :: '"' :: rest => (quotedRest? rest).map fun (name, rest) => ('"' :: name, rest)
  | '"' :: rest => some ([], rest)
  | c :: rest => (quotedRest? rest).map fun (name, rest) => (c :: name, rest)

def quoted? : List Char → Option (String × List Char)
  | '"' :: rest => (quotedRest? rest).map fun (name, rest) => (String.ofList name, rest)
  | _ => none

def isWordChar (c : Char) : Bool :=
  c.isAlphanum || c = '_'

def lexeme? : List Char → Option (Lexeme × List Char)
  | [] => none
  | c :: rest =>
    if c = '"' then (quoted? (c :: rest)).map fun (name, rest) => (.identifier name, rest)
    else if isWordChar c then
      some (.word (String.ofList ((c :: rest).takeWhile isWordChar)),
        (c :: rest).dropWhile isWordChar)
    else some (.symbol c, rest)

def lexemesFrom : Nat → List Char → Option (List Lexeme)
  | 0, _ => none
  | fuel + 1, s =>
    match s.dropWhile Char.isWhitespace with
    | [] => some []
    | s@(_ :: _) =>
      (lexeme? s).bind fun (lexeme, rest) => (lexemesFrom fuel rest).map (lexeme :: ·)

/-- The statements of a text, which semicolons separate. Every lexeme takes at least one
character. -/
def read? (text : String) : Option (List (List Lexeme)) :=
  (lexemesFrom (text.length + 1) text.toList).map (splitOn (.symbol ';'))

/-! ## Identifiers -/

theorem quotedRest?_of_ne {c : Char} (h : c ≠ '"') (rest : List Char) :
    quotedRest? (c :: rest) = (quotedRest? rest).map fun (name, rest) => (c :: name, rest) := by
  rw [quotedRest?]
  · intro _ same
    exact absurd same h
  · exact h

/-- A quote ends the identifier unless another one follows. -/
theorem quotedRest?_quote {rest : List Char} (h : rest.head? ≠ some '"') :
    quotedRest? ('"' :: rest) = some ([], rest) := by
  cases rest with
  | nil => rfl
  | cons c rest =>
    have other : c ≠ '"' := by simpa using h
    rw [quotedRest?]
    intro _ same
    exact absurd (List.cons.inj same).1 other

/-- An escaped character is read back, whatever follows it. -/
theorem quotedRest?_escape (c : Char) (rest : List Char) :
    quotedRest? (escape c ++ rest) =
      (quotedRest? rest).map fun (name, rest) => (c :: name, rest) := by
  unfold escape
  split
  · rename_i quote
    subst quote
    rfl
  · rename_i other
    exact quotedRest?_of_ne other rest

theorem quotedRest?_flatMap_escape (name : List Char) {rest : List Char}
    (h : rest.head? ≠ some '"') :
    quotedRest? (name.flatMap escape ++ '"' :: rest) = some (name, rest) := by
  induction name with
  | nil => exact quotedRest?_quote h
  | cons c name ih =>
    rw [List.flatMap_cons, List.append_assoc, quotedRest?_escape, ih]
    rfl

theorem quoted?_identifier (name : String) {rest : List Char} (h : rest.head? ≠ some '"') :
    quoted? ((identifier name).toList ++ rest) = some (name, rest) := by
  have body : (identifier name).toList ++ rest =
      '"' :: (name.toList.flatMap escape ++ '"' :: rest) := by
    simp [identifier]
  rw [body, quoted?, quotedRest?_flatMap_escape _ h]
  simp

/-! ## Lexemes with a blank between them -/

def Lexeme.written : Lexeme → List Char
  | word letters => letters.toList
  | identifier name => (Sql.identifier name).toList
  | symbol c => [c]

/-- The lexeme is read as what it is, rather than as a blank or another lexeme. -/
def Lexeme.isPlain : Lexeme → Bool
  | word letters => !letters.toList.isEmpty && letters.toList.all isWordChar
  | identifier _ => true
  | symbol c => c != '"' && !isWordChar c && !c.isWhitespace

theorem not_isWhitespace_of_isWordChar {c : Char} (h : isWordChar c = true) :
    c.isWhitespace = false := by
  refine Bool.eq_false_iff.mpr fun blank => ?_
  simp only [Char.isWhitespace, Bool.or_eq_true, decide_eq_true_eq] at blank
  rcases blank with ((rfl | rfl) | rfl) | rfl <;> cases h

/-- A lexeme begins with a character that is no blank. -/
theorem Lexeme.exists_written {l : Lexeme} (plain : l.isPlain = true) :
    ∃ c rest, l.written = c :: rest ∧ c.isWhitespace = false := by
  cases l with
  | word letters =>
    obtain ⟨nonempty, all⟩ : letters.toList ≠ [] ∧ ∀ c ∈ letters.toList, isWordChar c = true := by
      simpa [isPlain] using plain
    obtain ⟨c, rest, same⟩ := List.exists_cons_of_ne_nil nonempty
    exact ⟨c, rest, same, not_isWhitespace_of_isWordChar (all c (by simp [same]))⟩
  | identifier name =>
    refine ⟨'"', name.toList.flatMap escape ++ ['"'], ?_, rfl⟩
    simp [written, Sql.identifier]
  | symbol c =>
    simp only [isPlain, Bool.and_eq_true, Bool.not_eq_true'] at plain
    exact ⟨c, [], rfl, plain.2⟩

/-- A lexeme ends where a blank follows. -/
theorem lexeme?_written {l : Lexeme} (plain : l.isPlain = true) {rest : List Char}
    (ends : ∀ c, rest.head? = some c → c = ' ') :
    lexeme? (l.written ++ rest) = some (l, rest) := by
  cases l with
  | word letters =>
    obtain ⟨nonempty, all⟩ : letters.toList ≠ [] ∧ ∀ c ∈ letters.toList, isWordChar c = true := by
      simpa [Lexeme.isPlain] using plain
    have stops : ∀ c, rest.head? = some c → isWordChar c = false := by
      intro c head
      rw [ends c head]
      rfl
    have front := takeWhile_run all stops
    have back := dropWhile_run all stops
    obtain ⟨c, others, same⟩ := List.exists_cons_of_ne_nil nonempty
    have letter : isWordChar c = true := all c (by simp [same])
    have unquoted : c ≠ '"' := by
      rintro rfl
      cases letter
    change lexeme? (letters.toList ++ rest) = _
    rw [same, List.cons_append] at front back ⊢
    rw [lexeme?, if_neg unquoted, if_pos letter, front, back, ← same, String.ofList_toList]
  | identifier name =>
    have apart : rest.head? ≠ some '"' := by
      intro head
      cases ends _ head
    have read := quoted?_identifier name apart
    change lexeme? ((Sql.identifier name).toList ++ rest) = _
    have first : (Sql.identifier name).toList ++ rest =
        '"' :: (name.toList.flatMap escape ++ '"' :: rest) := by
      simp [Sql.identifier]
    rw [first] at read ⊢
    rw [lexeme?, if_pos rfl, read]
    rfl
  | symbol c =>
    simp only [Lexeme.isPlain, Bool.and_eq_true, bne_iff_ne, Bool.not_eq_true'] at plain
    obtain ⟨⟨unquoted, noLetter⟩, -⟩ := plain
    change lexeme? (c :: rest) = _
    rw [lexeme?, if_neg unquoted, if_neg (by simp [noLetter])]

theorem lexemesFrom_blank (fuel : Nat) (s : List Char) :
    lexemesFrom fuel (' ' :: s) = lexemesFrom fuel s := by
  cases fuel <;> rfl

/-- Lexemes that are written behind blanks are read one after the other. -/
theorem lexemesFrom_written {lexemes : List Lexeme} (plain : ∀ l ∈ lexemes, l.isPlain = true)
    {fuel : Nat} (enough : lexemes.length < fuel) :
    lexemesFrom fuel (lexemes.flatMap fun l => ' ' :: l.written) = some lexemes := by
  induction lexemes generalizing fuel with
  | nil =>
    cases fuel with
    | zero => cases enough
    | succ fuel => rfl
  | cons l lexemes ih =>
    obtain ⟨first, others⟩ := List.forall_mem_cons.mp plain
    cases fuel with
    | zero => cases enough
    | succ fuel =>
      obtain ⟨c, rest, same, visible⟩ := l.exists_written first
      have ends : ∀ c, (lexemes.flatMap fun l => ' ' :: l.written).head? = some c → c = ' ' := by
        intro c head
        cases lexemes with
        | nil => cases head
        | cons => exact (Option.some.inj head).symm
      have read := lexeme?_written first ends
      have remaining := ih others (Nat.lt_of_succ_lt_succ enough)
      have start : (l.written ++ lexemes.flatMap fun l => ' ' :: l.written).dropWhile
          Char.isWhitespace = c :: (rest ++ lexemes.flatMap fun l => ' ' :: l.written) := by
        rw [same]
        simp [visible]
      rw [List.flatMap_cons, List.cons_append, lexemesFrom_blank, lexemesFrom, start]
      rw [same, List.cons_append] at read
      dsimp only
      rw [read, Option.bind_some, remaining]
      rfl

theorem two_mul_length_le {lexemes : List Lexeme} (plain : ∀ l ∈ lexemes, l.isPlain = true) :
    2 * lexemes.length ≤ (lexemes.flatMap fun l => ' ' :: l.written).length := by
  induction lexemes with
  | nil => exact Nat.le_refl 0
  | cons l lexemes ih =>
    obtain ⟨first, others⟩ := List.forall_mem_cons.mp plain
    obtain ⟨c, rest, same, -⟩ := l.exists_written first
    have remaining := ih others
    rw [List.flatMap_cons, same, List.length_append, List.length_cons, List.length_cons,
      List.length_cons]
    omega

/-! ## Statements -/

/-- The words of a statement around the names that are put into it. -/
def Statement.lexemes : Statement → List Lexeme
  | dropDatabase name =>
    [.word "DROP", .word "DATABASE", .word "IF", .word "EXISTS", .identifier name]
  | createDatabase name template =>
    [.word "CREATE", .word "DATABASE", .identifier name, .word "TEMPLATE", .symbol '=',
      .identifier template]
  | truncateTable name => [.word "TRUNCATE", .word "TABLE", .identifier name]
  | begin => [.word "START", .word "TRANSACTION"]
  | commit => [.word "COMMIT"]
  | rollback => [.word "ROLLBACK"]

namespace Statement

theorem isPlain_lexemes (s : Statement) : ∀ l ∈ s.lexemes, l.isPlain = true := by
  apply List.all_eq_true.mp
  cases s <;> rfl

/-- A statement is its lexemes with a blank between them. -/
theorem toList_text (s : Statement) :
    ' ' :: s.text.toList = s.lexemes.flatMap fun l => ' ' :: l.written := by
  cases s with
  | dropDatabase name =>
    change ' ' :: ("DROP DATABASE IF EXISTS " ++ identifier name).toList = _
    simp [lexemes, Lexeme.written]
  | createDatabase name template =>
    change ' ' ::
      ("CREATE DATABASE " ++ identifier name ++ " TEMPLATE = " ++ identifier template).toList = _
    simp [lexemes, Lexeme.written]
  | truncateTable name =>
    change ' ' :: ("TRUNCATE TABLE " ++ identifier name).toList = _
    simp [lexemes, Lexeme.written]
  | begin | commit | rollback => rfl

/-- There is no semicolon outside the names. -/
theorem splitOn_lexemes (s : Statement) : splitOn (.symbol ';') s.lexemes = [s.lexemes] := by
  apply splitOn_of_not_mem
  cases s <;> simp [lexemes]

/-- The server finds one statement in the text, with the names as they were given. -/
theorem read?_text (s : Statement) : read? s.text = some [s.lexemes] := by
  have length : s.text.length + 1 = (s.lexemes.flatMap fun l => ' ' :: l.written).length := by
    rw [← toList_text, List.length_cons, String.length_toList]
  have short : 2 * s.lexemes.length ≤ s.text.length + 1 := by
    rw [length]
    exact two_mul_length_le s.isPlain_lexemes
  have read : lexemesFrom (s.text.length + 1) s.text.toList = some s.lexemes := by
    rw [← lexemesFrom_blank, toList_text]
    exact lexemesFrom_written s.isPlain_lexemes (by omega)
  rw [read?, read, Option.map_some, splitOn_lexemes]

theorem lexemes_injective {s s' : Statement} (same : s.lexemes = s'.lexemes) : s = s' := by
  cases s <;> cases s' <;> simp_all [lexemes]

end Statement

/-- An identifier is read back from whatever follows it, unless that begins with a quote. A
statement reads as one statement, with exactly the names that were put into it, so that statements
with the same text are the same. -/
theorem statements_recovered :
    (∀ (name : String) (rest : List Char), rest.head? ≠ some '"' →
      quoted? ((identifier name).toList ++ rest) = some (name, rest)) ∧
    (∀ name, read? (Statement.dropDatabase name).text =
      some [[.word "DROP", .word "DATABASE", .word "IF", .word "EXISTS", .identifier name]]) ∧
    (∀ name template, read? (Statement.createDatabase name template).text =
      some [[.word "CREATE", .word "DATABASE", .identifier name, .word "TEMPLATE", .symbol '=',
        .identifier template]]) ∧
    (∀ name, read? (Statement.truncateTable name).text =
      some [[.word "TRUNCATE", .word "TABLE", .identifier name]]) ∧
    ∀ s s' : Statement, s.text = s'.text → s = s' := by
  refine ⟨fun name rest => quoted?_identifier name, fun name => ?_, fun name template => ?_,
    fun name => ?_, ?_⟩
  · exact (Statement.dropDatabase name).read?_text
  · exact (Statement.createDatabase name template).read?_text
  · exact (Statement.truncateTable name).read?_text
  · intro s s' same
    have read := s.read?_text
    rw [same, s'.read?_text] at read
    exact Statement.lexemes_injective (List.cons.inj (Option.some.inj read)).1.symm

/-- The name ends in a quote and looks like the rest of its statement. -/
theorem statements_recovered_quotes :
    let name := "x\" TEMPLATE = \"y\"; --\""
    let rest := " TEMPLATE = \"z\"".toList
    rest.head? ≠ some '"' ∧ quoted? ((identifier name).toList ++ rest) = some (name, rest) := by
  intro name rest
  have apart : rest.head? ≠ some '"' := by decide
  exact ⟨apart, statements_recovered.1 name rest apart⟩

end Testbed.Sql
