import Testbed.Json.Document
import Testbed.Proofs.JsonLexeme

/-!
# JSON values and the texts that hold them

A value is written as lexemes with any blanks around them. The reader of documents turns it into
events that depend on nothing but the value and on how many collections are open around it.
-/

namespace Testbed.Json

open Text (isDigit)

/-! ## Lexemes -/

/-- What stands between blanks. -/
inductive Lexeme where
  | openArray
  | closeArray
  | openObject
  | closeObject
  | colon
  | comma
  | null
  | flag (value : Bool)
  | number (n : Number)
  | string (s : String)
  deriving DecidableEq, Repr

namespace Lexeme

def written : Lexeme → List Char
  | openArray => ['[']
  | closeArray => [']']
  | openObject => ['\x7b']
  | closeObject => ['\x7d']
  | colon => [':']
  | comma => [',']
  | null => ['n', 'u', 'l', 'l']
  | flag true => ['t', 'r', 'u', 'e']
  | flag false => ['f', 'a', 'l', 's', 'e']
  | number n => n.written
  | string s => (stringText s).toList

/-- Only a number may be too large to be read. -/
def token? : Lexeme → Option Token
  | openArray => some .openArray
  | closeArray => some .closeArray
  | openObject => some .openObject
  | closeObject => some .closeObject
  | colon => some .colon
  | comma => some .comma
  | null => some .null
  | flag b => some (.flag b)
  | number n => n.token?
  | string s => some (.string s)

/-- Whether more characters would change what is read. -/
def isNumber : Lexeme → Bool
  | number _ => true
  | _ => false

/-- The tokens in front of the first number that is too large, and whether there is none. -/
def tokens : List Lexeme → List Token × Bool
  | [] => ([], true)
  | l :: rest =>
    match l.token? with
    | none => ([], false)
    | some t => (t :: (tokens rest).1, (tokens rest).2)

end Lexeme

/-- A text that consists of lexemes, with any blanks around them. Behind a number stands nothing
that belongs to it. -/
inductive Layout : List Lexeme → List Char → Prop where
  | done {blanks : List Char} (blank : ∀ c ∈ blanks, isBlank c = true) : Layout [] blanks
  | next {blanks : List Char} (blank : ∀ c ∈ blanks, isBlank c = true) (l : Lexeme)
      {more : List Lexeme} {rest : List Char} (ends : l.isNumber = true → Ends rest)
      (others : Layout more rest) : Layout (l :: more) (blanks ++ (l.written ++ rest))

theorem token?_lexeme (l : Lexeme) {rest : List Char} (ends : l.isNumber = true → Ends rest) :
    token? (l.written ++ rest) = l.token?.map fun t => (t, rest) := by
  cases l with
  | number n => exact token?_number n (ends rfl)
  | string s => exact token?_string s rest
  | flag b => cases b <;> rfl
  | _ => rfl

theorem isBlank_of_isDigit {c : Char} (digit : isDigit c = true) : isBlank c = false := by
  cases blank : isBlank c with
  | false => rfl
  | true =>
    simp only [isBlank, Bool.or_eq_true, beq_iff_eq] at blank
    rcases blank with ((rfl | rfl) | rfl) | rfl <;> cases digit

/-- A lexeme begins with a character that is no blank. -/
theorem written_cases (l : Lexeme) : ∃ c s, l.written = c :: s ∧ isBlank c = false := by
  cases l with
  | number n =>
    obtain ⟨c, others, same, digit⟩ := n.body_cons
    cases negative : n.negative with
    | true => exact ⟨'-', n.body, by simp [Lexeme.written, Number.written, negative], by decide⟩
    | false =>
      refine ⟨c, others, ?_, isBlank_of_isDigit digit⟩
      simp [Lexeme.written, Number.written, negative, same]
  | string s => exact ⟨'"', s.toList.flatMap escape ++ ['"'], by simp [Lexeme.written, stringText],
      by decide⟩
  | flag b => cases b <;> exact ⟨_, _, rfl, by decide⟩
  | _ => exact ⟨_, _, rfl, by decide⟩

theorem tokensFrom_layout {ls : List Lexeme} {s : List Char} (layout : Layout ls s) {fuel : Nat}
    (enough : s.length < fuel) : tokensFrom fuel s = Lexeme.tokens ls := by
  induction layout generalizing fuel with
  | @done blanks blank =>
    cases fuel with
    | zero => cases enough
    | succ fuel =>
      have left : blanks.dropWhile isBlank = [] := by
        have run : (blanks ++ []).dropWhile isBlank = [].dropWhile isBlank :=
          List.dropWhile_append_of_pos blank
        rwa [List.append_nil] at run
      rw [tokensFrom, left]
      rfl
  | @next blanks blank l more rest ends others ih =>
    cases fuel with
    | zero => cases enough
    | succ fuel =>
      obtain ⟨c, s, same, visible⟩ := written_cases l
      have left : (blanks ++ (l.written ++ rest)).dropWhile isBlank = l.written ++ rest := by
        apply Text.dropWhile_run blank
        rw [same]
        rintro _ ⟨rfl⟩
        exact visible
      have shorter : rest.length < fuel := by
        simp only [List.length_append, same, List.length_cons] at enough
        omega
      have token := token?_lexeme l ends
      rw [same, List.cons_append] at left token
      rw [tokensFrom, same, List.cons_append, left]
      simp only [token, Lexeme.tokens]
      cases l.token? with
      | none => rfl
      | some t => simp only [Option.map_some, ih shorter]

/-- The tokens of a text are those of its lexemes. -/
theorem tokens_layout {ls : List Lexeme} {s : List Char} (layout : Layout ls s) :
    tokens s = Lexeme.tokens ls :=
  tokensFrom_layout layout (Nat.lt_succ_self _)

/-! ## Values -/

inductive Value where
  | null
  | flag (value : Bool)
  | number (n : Number)
  | string (s : String)
  | array (values : List Value)
  | object (members : List (String × Value))

mutual

def Value.lexemes : Value → List Lexeme
  | .null => [.null]
  | .flag b => [.flag b]
  | .number n => [.number n]
  | .string s => [.string s]
  | .array vs => .openArray :: elementLexemes true vs
  | .object ms => .openObject :: memberLexemes true ms

/-- The values up to the end of an array, with a comma in front of any but the first. -/
def elementLexemes (first : Bool) : List Value → List Lexeme
  | [] => [.closeArray]
  | v :: vs => (if first then [] else [.comma]) ++ v.lexemes ++ elementLexemes false vs

def memberLexemes (first : Bool) : List (String × Value) → List Lexeme
  | [] => [.closeObject]
  | (key, v) :: ms =>
    (if first then [] else [.comma]) ++ .string key :: .colon :: v.lexemes ++ memberLexemes false ms

end

/-- A text spells a value if it is read as its lexemes. What stands behind a number that is too
large is never read, so anything may stand there. -/
def Spells (text : String) (v : Value) : Prop :=
  tokens text.toList = Lexeme.tokens v.lexemes

instance (text : String) (v : Value) : Decidable (Spells text v) :=
  inferInstanceAs (Decidable (tokens text.toList = Lexeme.tokens v.lexemes))

theorem spells_of_layout {text : String} {v : Value} (layout : Layout v.lexemes text.toList) :
    Spells text v :=
  tokens_layout layout

theorem Layout.blank {ls : List Lexeme} {s : List Char} (layout : Layout ls s) :
    Layout ls (' ' :: s) := by
  have wider {blanks : List Char} (blank : ∀ c ∈ blanks, isBlank c = true) :
      ∀ c ∈ ' ' :: blanks, isBlank c = true :=
    List.forall_mem_cons.mpr ⟨by decide, blank⟩
  cases layout with
  | done blank => exact .done (wider blank)
  | next blank l ends others => exact .next (wider blank) l ends others

theorem Layout.nil : Layout [] [] :=
  .done (by simp)

theorem Layout.cons (l : Lexeme) {more : List Lexeme} {rest : List Char}
    (ends : l.isNumber = true → Ends rest) (others : Layout more rest) :
    Layout (l :: more) (l.written ++ rest) := by
  have nothing : ∀ c ∈ ([] : List Char), isBlank c = true := by simp
  exact .next nothing l ends others

def spaced (ls : List Lexeme) : List Char :=
  ls.flatMap fun l => l.written ++ [' ']

theorem layout_spaced (ls : List Lexeme) : Layout ls (spaced ls) := by
  induction ls with
  | nil => exact .nil
  | cons l ls ih =>
    have ends : Ends (' ' :: spaced ls) := by
      rintro _ ⟨rfl⟩
      decide
    have same : spaced (l :: ls) = l.written ++ ' ' :: spaced ls := by
      simp [spaced]
    rw [same]
    exact .cons l (fun _ => ends) ih.blank

/-! ## Events -/

/-- Events up to a place, and whether reading comes there without breaking off. -/
abbrev Stretch := List Document.Event × Bool

/-- Events up to a place, and those behind it unless reading breaks off before. -/
def follow (first behind : Stretch) : Stretch :=
  if first.2 then (first.1 ++ behind.1, behind.2) else first

def Reader.lexemeEvents (r : Reader) (ls : List Lexeme) : Stretch :=
  let read := r.events (Lexeme.tokens ls).1
  (read.1, (Lexeme.tokens ls).2 && read.2)

def Number.events (n : Number) : Stretch :=
  match n.natural? with
  | some k => ([.scalar (plainScalar (.natural k))], true)
  | none => if n.token?.isSome then ([.scalar (plainScalar .number)], true) else ([], false)

mutual

/-- The events of a value inside so many collections, up to a place that cannot be read. -/
def Value.events (depth : Nat) : Value → Stretch
  | .null => ([.scalar (plainScalar .null)], true)
  | .flag b => ([.scalar (plainScalar (.flag b))], true)
  | .number n => n.events
  | .string s => ([.scalar (stringScalar s)], true)
  | .array vs =>
    if nestingLimit ≤ depth then ([], false)
    else follow ([.openSequence false], true) (elementEvents (depth + 1) vs)
  | .object ms =>
    if nestingLimit ≤ depth then ([], false)
    else follow ([.openMapping false], true) (memberEvents (depth + 1) ms)

def elementEvents (depth : Nat) : List Value → Stretch
  | [] => ([.close], true)
  | v :: vs => follow (v.events depth) (elementEvents depth vs)

def memberEvents (depth : Nat) : List (String × Value) → Stretch
  | [] => ([.close], true)
  | (key, v) :: ms =>
    follow ([.scalar (stringScalar key)], true)
      (follow (v.events depth) (memberEvents depth ms))

end

theorem follow_assoc (a b c : Stretch) :
    follow (follow a b) c = follow a (follow b c) := by
  obtain ⟨as, complete⟩ := a
  cases complete with
  | false => rfl
  | true =>
    obtain ⟨bs, complete⟩ := b
    cases complete <;> simp [follow]

theorem follow_nil (r : Stretch) : follow r ([], true) = r := by
  obtain ⟨events, complete⟩ := r
  cases complete <;> simp [follow]

theorem lexemeEvents_cons (r : Reader) (l : Lexeme) (ls : List Lexeme) :
    r.lexemeEvents (l :: ls) =
      match l.token?.bind r.step with
      | none => ([], false)
      | some (event, next) => follow (event.toList, true) (next.lexemeEvents ls) := by
  unfold Reader.lexemeEvents
  rw [Lexeme.tokens]
  cases l.token? with
  | none => simp [Reader.events]
  | some t =>
    dsimp only [Option.bind_some]
    rw [Reader.events]
    cases r.step t with
    | none => simp
    | some stepped => rfl

/-- Where a value may stand, what begins one is read as such. -/
theorem step_value (frames : List Frame) {expected : Expected}
    (here : expected = .value ∨ expected = .valueOrEnd) (t : Token) (begins : t ≠ .closeArray) :
    Reader.step ⟨frames, expected⟩ t =
      (Reader.value ⟨frames, expected⟩ t).map fun (event, next) => (some event, next) := by
  rcases here with rfl | rfl
  · rfl
  · cases t with
    | closeArray => exact absurd rfl begins
    | _ => rfl

theorem lexemeEvents_number (n : Number) (frames : List Frame) {expected : Expected}
    (here : expected = .value ∨ expected = .valueOrEnd) (rest : List Lexeme) :
    Reader.lexemeEvents ⟨frames, expected⟩ (.number n :: rest) =
      follow n.events (Reader.lexemeEvents (Reader.afterValue ⟨frames, expected⟩) rest) := by
  rw [lexemeEvents_cons, Lexeme.token?, Number.events]
  rcases token?_cases n with ⟨k, exact, token⟩ | ⟨inexact, large | token⟩
  · rw [exact, token, Option.bind_some, step_value frames here (.natural k) nofun]
    rfl
  · rw [inexact, large]
    rfl
  · rw [inexact, token, Option.bind_some, step_value frames here .number nofun]
    rfl

/-- A lexeme that opens a collection is read as such unless too many are open. -/
theorem lexemeEvents_open (l : Lexeme) (t : Token) (e : Document.Event) (frame : Frame)
    (inside : Expected) (token : l.token? = some t) (begins : t ≠ .closeArray)
    (opens : ∀ r : Reader, r.value t = if nestingLimit ≤ r.frames.length then none
      else some (e, ⟨frame :: r.frames, inside⟩))
    (frames : List Frame) {expected : Expected}
    (here : expected = .value ∨ expected = .valueOrEnd) (rest : List Lexeme) :
    Reader.lexemeEvents ⟨frames, expected⟩ (l :: rest) =
      if nestingLimit ≤ frames.length then ([], false)
      else follow ([e], true) (Reader.lexemeEvents ⟨frame :: frames, inside⟩ rest) := by
  rw [lexemeEvents_cons, token, Option.bind_some, step_value frames here t begins, opens]
  by_cases deep : nestingLimit ≤ frames.length
  · simp only [deep, if_true]
    rfl
  · simp only [deep, if_false]
    rfl

mutual

/-- A value is read as its events, wherever one may stand. -/
theorem lexemeEvents_value (v : Value) (frames : List Frame) {expected : Expected}
    (here : expected = .value ∨ expected = .valueOrEnd) (rest : List Lexeme) :
    Reader.lexemeEvents ⟨frames, expected⟩ (v.lexemes ++ rest) =
      follow (v.events frames.length)
        (Reader.lexemeEvents (Reader.afterValue ⟨frames, expected⟩) rest) := by
  cases v with
  | number n => exact lexemeEvents_number n frames here rest
  | array vs =>
    have inside := lexemeEvents_elements vs frames true rest
    have opening := lexemeEvents_open .openArray .openArray (.openSequence false) .array
      .valueOrEnd rfl nofun (fun _ => rfl) frames here (elementLexemes true vs ++ rest)
    refine opening.trans ?_
    rw [Value.events]
    split
    · rfl
    · rw [follow_assoc]
      exact congrArg _ inside
  | object ms =>
    have inside := lexemeEvents_members ms frames true rest
    have opening := lexemeEvents_open .openObject .openObject (.openMapping false) .object
      .keyOrEnd rfl nofun (fun _ => rfl) frames here (memberLexemes true ms ++ rest)
    refine opening.trans ?_
    rw [Value.events]
    split
    · rfl
    · rw [follow_assoc]
      exact congrArg _ inside
  | _ => rcases here with rfl | rfl <;> exact lexemeEvents_cons _ _ _

theorem lexemeEvents_elements (vs : List Value) (frames : List Frame) (first : Bool)
    (rest : List Lexeme) :
    Reader.lexemeEvents ⟨.array :: frames, if first then .valueOrEnd else .separator⟩
        (elementLexemes first vs ++ rest) =
      follow (elementEvents (frames.length + 1) vs)
        (Reader.lexemeEvents (Reader.afterValue ⟨frames, .value⟩) rest) := by
  cases vs with
  | nil => cases first <;> exact lexemeEvents_cons _ _ _
  | cons v vs =>
    have later := lexemeEvents_elements vs frames false rest
    have inside (expected : Expected) (here : expected = .value ∨ expected = .valueOrEnd) :
        Reader.lexemeEvents ⟨.array :: frames, expected⟩
            (v.lexemes ++ (elementLexemes false vs ++ rest)) =
          follow (elementEvents (frames.length + 1) (v :: vs))
            (Reader.lexemeEvents (Reader.afterValue ⟨frames, .value⟩) rest) := by
      rw [lexemeEvents_value v _ here, elementEvents, follow_assoc, ← later]
      rfl
    rw [elementLexemes, List.append_assoc, List.append_assoc]
    -- Only the first value stands where the array might also end, and has no comma in front.
    cases first with
    | true => exact inside .valueOrEnd (.inr rfl)
    | false =>
      rw [← inside .value (.inl rfl)]
      exact lexemeEvents_cons _ _ _

theorem lexemeEvents_members (ms : List (String × Value)) (frames : List Frame) (first : Bool)
    (rest : List Lexeme) :
    Reader.lexemeEvents ⟨.object :: frames, if first then .keyOrEnd else .separator⟩
        (memberLexemes first ms ++ rest) =
      follow (memberEvents (frames.length + 1) ms)
        (Reader.lexemeEvents (Reader.afterValue ⟨frames, .value⟩) rest) := by
  cases ms with
  | nil => cases first <;> exact lexemeEvents_cons _ _ _
  | cons m ms =>
    obtain ⟨key, v⟩ := m
    have later := lexemeEvents_members ms frames false rest
    have inside : Reader.lexemeEvents ⟨.object :: frames, .value⟩
          (v.lexemes ++ (memberLexemes false ms ++ rest)) =
        follow (follow (v.events (frames.length + 1)) (memberEvents (frames.length + 1) ms))
          (Reader.lexemeEvents (Reader.afterValue ⟨frames, .value⟩) rest) := by
      rw [lexemeEvents_value v _ (.inl rfl), follow_assoc, ← later]
      rfl
    have afterKey : Reader.lexemeEvents ⟨.object :: frames, .colon⟩
          (.colon :: (v.lexemes ++ (memberLexemes false ms ++ rest))) =
        Reader.lexemeEvents ⟨.object :: frames, .value⟩
          (v.lexemes ++ (memberLexemes false ms ++ rest)) :=
      lexemeEvents_cons _ _ _
    have fromKey (expected : Expected) (here : expected = .key ∨ expected = .keyOrEnd) :
        Reader.lexemeEvents ⟨.object :: frames, expected⟩
            (.string key :: .colon :: (v.lexemes ++ (memberLexemes false ms ++ rest))) =
          follow (memberEvents (frames.length + 1) ((key, v) :: ms))
            (Reader.lexemeEvents (Reader.afterValue ⟨frames, .value⟩) rest) := by
      rw [memberEvents, follow_assoc, ← inside, ← afterKey]
      rcases here with rfl | rfl <;> exact lexemeEvents_cons _ _ _
    rw [memberLexemes, List.append_assoc, List.append_assoc]
    cases first with
    | true => exact fromKey .keyOrEnd (.inr rfl)
    | false =>
      rw [← fromKey .key (.inl rfl)]
      exact lexemeEvents_cons _ _ _

end

/-- The document that a text holds is the one of the value, whatever the text looks like. -/
theorem document_of_spells {text : String} {v : Value} (h : Spells text v) :
    document text =
      { events := (v.events 0).1.toArray, complete := (v.events 0).2, positional := true,
        nesting := nestingLimit - 1 } := by
  have read : Reader.lexemeEvents ⟨[], .value⟩ v.lexemes = v.events 0 := by
    have whole := lexemeEvents_value v [] (.inl rfl) []
    rw [List.append_nil] at whole
    rw [whole]
    exact follow_nil _
  have same : tokens text.toList = Lexeme.tokens v.lexemes := h
  unfold document
  simp only [same, ← read, Reader.lexemeEvents]

end Testbed.Json
