import Testbed.CommandLine
import Testbed.Proofs.Result
import Testbed.Proofs.Splitting

/-!
# Options as they are written

A mention is an option as it stands on a command line: alone, with a value behind an equals sign, or
with its value in the next word. Reading the words of mentions comes to taking in one mention after
the other, whatever follows them. Conversely, what is read to the end in a scope consists of
mentions and of a rest that is none.
-/

namespace Testbed

namespace CommandLine

namespace OptionName

def all : List OptionName :=
  everywhere ++ [database, api, unknown, name, workingDirectory]

theorem find?_word (o : OptionName) : all.find? (·.word = o.word) = some o := by
  cases o with
  | setting field => cases field <;> decide +kernel
  | _ => decide +kernel

theorem word_injective {o p : OptionName} (h : o.word = p.word) : o = p := by
  have same := find?_word o
  rw [h, find?_word p] at same
  exact (Option.some.inj same).symm

/-- The word of an option is not empty, asks for nothing, and goes as far as an equals sign. -/
theorem word_plain (o : OptionName) :
    o.word.toList ≠ [] ∧ o.word ≠ "help" ∧ o.word ≠ "version" ∧ '=' ∉ o.word.toList := by
  cases o with
  | setting field => cases field <;> decide +kernel
  | _ => decide +kernel

/-- The word of an option with what follows it behind an equals sign. -/
def written (o : OptionName) : Option String → String
  | none => "--" ++ o.word
  | some text => "--" ++ o.word ++ "=" ++ text

theorem toList_written_none (o : OptionName) :
    (o.written none).toList = '-' :: '-' :: o.word.toList :=
  String.toList_append

theorem toList_written_some (o : OptionName) (text : String) :
    (o.written (some text)).toList = '-' :: '-' :: (o.word.toList ++ '=' :: text.toList) := by
  simp [written, String.toList_append]

end OptionName

/-! ## Words of options -/

def Hyphened (word : String) : Prop :=
  ∃ c rest, word.toList = '-' :: c :: rest

namespace Scope

variable {s : Scope} {o : OptionName} {word : String} {value : Option String}

theorem longPiece_option (h : o ∈ s.options) (value : Option String)
    (fits : o.kind = .switch → value = none) : s.longPiece o.word value = .option o value := by
  obtain ⟨-, help, version, -⟩ := o.word_plain
  have found : s.options.find? (·.word = o.word) = some o := by
    cases search : s.options.find? (·.word = o.word) with
    | none =>
      have differs := List.find?_eq_none.mp search o h
      simp at differs
    | some p =>
      have same : p.word = o.word := by simpa using List.find?_some search
      rw [OptionName.word_injective same]
  unfold longPiece
  rw [found]
  cases value with
  | none => simp [help, version]
  | some text =>
    have kind : o.kind ≠ .switch := fun switch => nomatch fits switch
    simp [help, version, kind]

theorem piece_written (h : o ∈ s.options) (value : Option String)
    (fits : o.kind = .switch → value = none) : s.piece (o.written value) = .option o value := by
  obtain ⟨front, -, -, plain⟩ := o.word_plain
  obtain ⟨c, rest, word⟩ := List.exists_cons_of_ne_nil front
  have name : String.ofList (c :: rest) = o.word := by rw [← word, String.ofList_toList]
  unfold piece
  cases value with
  | none =>
    have uncut : Text.cut? '=' (c :: rest) = none := Text.cut?_of_not_mem (word ▸ plain)
    rw [OptionName.toList_written_none, word]
    simp only [uncut, name]
    exact longPiece_option h none fits
  | some text =>
    have cut : Text.cut? '=' (c :: (rest ++ '=' :: text.toList)) = some (c :: rest, text.toList) :=
      Text.cut?_append (word ▸ plain) text.toList
    rw [OptionName.toList_written_some, word, List.cons_append]
    simp only [cut, name, String.ofList_toList]
    exact longPiece_option h (some text) fits

theorem longPiece_eq_option {name : String} {given : Option String}
    (h : s.longPiece name given = .option o value) :
    o ∈ s.options ∧ o.word = name ∧ given = value ∧ (o.kind = .switch → value = none) := by
  unfold longPiece at h
  dsimp only at h
  split at h
  · split at h <;> cases h
  split at h
  · split at h <;> cases h
  split at h
  · unfold strange at h
    split at h <;> cases h
  · rename_i p found
    split at h
    · cases h
    · rename_i free
      obtain ⟨rfl, rfl⟩ := Piece.option.inj h
      refine ⟨List.mem_of_find?_eq_some found, by simpa using List.find?_some found, rfl, ?_⟩
      intro switch
      cases given with
      | none => rfl
      | some text => simp [switch] at free

/-- A word that is an option in a scope is written like one. -/
theorem piece_eq_option (h : s.piece word = .option o value) :
    o ∈ s.options ∧ word = o.written value ∧ (o.kind = .switch → value = none) := by
  unfold piece at h
  split at h
  · cases h
  · rename_i long _ list
    split at h
    · rename_i name text cut
      obtain ⟨mem, same, rfl, switch⟩ := longPiece_eq_option h
      refine ⟨mem, String.toList_injective ?_, switch⟩
      rw [list, Text.eq_append_of_cut? cut, OptionName.toList_written_some, same,
        String.toList_ofList, String.toList_ofList]
    · obtain ⟨mem, same, rfl, switch⟩ := longPiece_eq_option h
      refine ⟨mem, String.toList_injective ?_, switch⟩
      rw [list, OptionName.toList_written_none, same, String.toList_ofList]
  · unfold shortPiece at h
    split at h
    · cases h
    split at h
    · cases h
    split at h <;> cases h
  · cases h

theorem piece_eq_escape (h : s.piece word = .escape) : word = "--" := by
  unfold piece at h
  split at h
  · rename_i list
    exact String.toList_injective list
  · split at h
    · unfold longPiece strange at h
      grind
    · unfold longPiece strange at h
      grind
  · unfold shortPiece at h
    grind
  · cases h

theorem piece_eq_plain (h : ¬ Hyphened word) : s.piece word = .plain := by
  unfold piece
  split
  · rename_i list
    exact absurd ⟨_, _, list⟩ h
  · rename_i list
    exact absurd ⟨_, _, list⟩ h
  · rename_i list
    exact absurd ⟨_, _, list⟩ h
  · rfl

/-- In front of the command no word that looks like an option is anything else. -/
theorem not_hyphened (h : outerScope.piece word = .plain) : ¬ Hyphened word := by
  rintro ⟨c, rest, list⟩
  unfold piece at h
  rw [list] at h
  split at h
  · cases h
  · have long (name : String) (value : Option String) :
        outerScope.longPiece name value ≠ .plain := by
      unfold longPiece strange
      simp only [outerScope]
      grind
    split at h <;> exact absurd h (long _ _)
  · unfold shortPiece at h
    simp only [outerScope] at h
    grind
  · rename_i other
    exact other c rest rfl

end Scope

/-! ## Mentions -/

inductive Manner where
  | alone
  | joined (text : String)
  | apart (text : String)
  deriving DecidableEq, Repr

/-- An option as it stands on a command line. -/
structure Mention where
  option : OptionName
  manner : Manner
  deriving DecidableEq, Repr

namespace Mention

def words (m : Mention) : List String :=
  match m.manner with
  | .alone => [m.option.written none]
  | .joined text => [m.option.written (some text)]
  | .apart text => [m.option.written none, text]

def text (m : Mention) : String :=
  match m.manner with
  | .alone => m.option.kind.implied?.getD ""
  | .joined text | .apart text => text

/-- In the scope there is such an option, its value is given in a way that its kind allows, and a
value of its own word is not taken for anything else. -/
def Fits (s : Scope) (m : Mention) : Prop :=
  m.option ∈ s.options ∧ match m.manner with
    | .alone => m.option.kind.implied? ≠ none
    | .joined _ => m.option.kind ≠ .switch
    | .apart text => m.option.kind.implied? = none ∧ s.piece text = .plain

instance (s : Scope) : (m : Mention) → Decidable (m.Fits s)
  | ⟨o, .alone⟩ => inferInstanceAs (Decidable (o ∈ s.options ∧ o.kind.implied? ≠ none))
  | ⟨o, .joined _⟩ => inferInstanceAs (Decidable (o ∈ s.options ∧ o.kind ≠ .switch))
  | ⟨o, .apart text⟩ =>
    inferInstanceAs (Decidable (o ∈ s.options ∧ o.kind.implied? = none ∧ s.piece text = .plain))

end Mention

namespace Reading

variable {r r' : Reading} {s : Scope}

def pass (r : Reading) (m : Mention) : Except Usage Reading :=
  match m.manner with
  | .alone => r.meet m.option none
  | .joined text => r.meet m.option (some text)
  | .apart text => do
    let r ← r.meet m.option none
    return { r with pending := .held m.option text }

/-- Takes the value of a mention at once. -/
def accept (r : Reading) (m : Mention) : Except Usage Reading :=
  r.take m.option m.text

/-- No value is still to come. -/
def Complete (r : Reading) : Prop :=
  ∀ o, r.pending ≠ .awaiting o

theorem take_settles {o : OptionName} {text : String} (h : r.take o text = .ok r') :
    r'.pending = .nothing := by
  unfold take at h
  split at h
  · cases h
  split at h
  · obtain rfl := Except.ok.inj h
    rfl
  · cases h

theorem settle_of_nothing (h : r.pending = .nothing) : r.settle = .ok r := by
  rw [settle, h]

theorem settle_awaiting {o : OptionName} {z : Reading} (h : r.pending = .awaiting o) :
    r.settle ≠ .ok z := by
  rw [settle, h]
  nofun

theorem stop_ne_ok {α : Type} {u : Usage} {a : α} : r.stop u ≠ .ok a := by
  unfold stop
  cases r.settle <;> nofun

/-- Where a value follows or is implied, it is taken at once. -/
theorem meet_eq_take {o : OptionName} {value : Option String} {text : String}
    (h : (value <|> o.kind.implied?) = some text) :
    r.meet o value = r.settle >>= fun r => r.take o text := by
  unfold meet
  rw [h]

theorem meet_eq_awaiting {o : OptionName} (h : o.kind.implied? = none) :
    r.meet o none = r.settle >>= fun r => .ok { r with pending := .awaiting o } := by
  unfold meet
  rw [h]
  rfl

theorem meet_complete {o : OptionName} {value : Option String}
    (h : (value <|> o.kind.implied?) ≠ none) (met : r.meet o value = .ok r') : r'.Complete := by
  obtain ⟨text, given⟩ := Option.ne_none_iff_exists'.mp h
  rw [meet_eq_take given] at met
  obtain ⟨z, -, taken⟩ := bind_eq_ok_iff.mp met
  intro p awaiting
  cases (take_settles taken).symm.trans awaiting

/-- Taking in a mention and then looking at its value is looking at the value before and then taking
the value of the mention. -/
theorem pass_settle {m : Mention} (fits : m.Fits s) (r : Reading) :
    (r.pass m >>= settle) = r.settle >>= fun r => r.accept m := by
  obtain ⟨-, manner⟩ := fits
  have taken {value : Option String} (h : (value <|> m.option.kind.implied?) = some m.text) :
      (r.meet m.option value >>= settle) = r.settle >>= fun r => r.take m.option m.text := by
    rw [meet_eq_take h, bind_assoc]
    congr 1
    funext z
    cases out : z.take m.option m.text with
    | error u => rfl
    | ok z' => exact settle_of_nothing (take_settles out)
  unfold pass accept
  unfold Mention.text at *
  cases h : m.manner with
  | alone =>
    rw [h] at manner
    obtain ⟨text, implied⟩ := Option.ne_none_iff_exists'.mp manner
    simp only [h] at taken
    exact taken (by simp [implied])
  | joined text =>
    simp only [h] at taken
    exact taken rfl
  | apart text =>
    rw [h] at manner
    simp only [meet_eq_awaiting manner.1, bind_assoc]
    rfl

/-- Values are looked at late, but what comes of the mentions in the end is what comes of taking
their values in order. -/
theorem foldlM_pass_settle {ms : List Mention} (fits : ∀ m ∈ ms, m.Fits s) (r : Reading) :
    (ms.foldlM pass r >>= settle) =
      r.settle >>= fun r => ms.foldlM accept r := by
  induction ms generalizing r with
  | nil =>
    simp only [List.foldlM_nil]
    cases h : r.settle with
    | error u => exact h
    | ok z => exact h
  | cons m ms ih =>
    obtain ⟨first, others⟩ := List.forall_mem_cons.mp fits
    calc (m :: ms).foldlM pass r >>= settle
        = r.pass m >>= fun r => ms.foldlM pass r >>= settle := by
          rw [List.foldlM_cons, bind_assoc]
      _ = (r.pass m >>= settle) >>= fun r => ms.foldlM accept r := by
          rw [bind_assoc]
          congr 1
          funext z
          exact ih others z
      _ = r.settle >>= fun r => (m :: ms).foldlM accept r := by
          rw [pass_settle first, bind_assoc]
          rfl

theorem pass_complete {m : Mention} (fits : m.Fits s) (h : r.pass m = .ok r') : r'.Complete := by
  obtain ⟨-, manner⟩ := fits
  unfold pass at h
  cases written : m.manner with
  | alone =>
    simp only [written] at h manner
    exact meet_complete manner h
  | joined text =>
    simp only [written] at h
    exact meet_complete (by simp) h
  | apart text =>
    simp only [written] at h
    obtain ⟨z, -, held⟩ := bind_eq_ok_iff.mp h
    obtain rfl := Except.ok.inj held
    intro o awaiting
    cases awaiting

theorem foldlM_pass_complete {ms : List Mention} (fits : ∀ m ∈ ms, m.Fits s) (complete : r.Complete)
    (h : ms.foldlM pass r = .ok r') : r'.Complete := by
  induction ms generalizing r with
  | nil =>
    obtain rfl := Except.ok.inj h
    exact complete
  | cons m ms ih =>
    obtain ⟨first, others⟩ := List.forall_mem_cons.mp fits
    rw [List.foldlM_cons] at h
    obtain ⟨z, passed, passes⟩ := bind_eq_ok_iff.mp h
    exact ih others (pass_complete first passed) passes

end Reading

/-! ## Reading mentions -/

namespace Rest

def toWords : Rest → List String
  | .nothing => []
  | .words first tail => first :: tail
  | .escaped tail => "--" :: tail

/-- The first word is no option, if nothing ends the options before it. -/
def Fits (s : Scope) : Rest → Prop
  | .nothing | .escaped _ => True
  | .words first _ => s.piece first = .plain

end Rest

namespace Scope

variable {s : Scope} {r r' : Reading} {ms : List Mention}

theorem read_mention {m : Mention} (fits : m.Fits s) (r : Reading) (tail : List String) :
    s.read r (m.words ++ tail) = r.pass m >>= fun r => s.read r tail := by
  obtain ⟨mem, manner⟩ := fits
  unfold Reading.pass Mention.words
  cases h : m.manner with
  | alone =>
    have piece := s.piece_written mem none fun _ => rfl
    simp only [List.cons_append, List.nil_append, read, piece]
  | joined text =>
    rw [h] at manner
    have piece := s.piece_written mem (some text) fun switch => absurd switch manner
    simp only [List.cons_append, List.nil_append, read, piece]
  | apart text =>
    rw [h] at manner
    have piece := s.piece_written mem none fun _ => rfl
    simp only [List.cons_append, List.nil_append, read, piece, manner.2,
      Reading.meet_eq_awaiting manner.1, bind_assoc]
    rfl

/-- Whatever follows them, the words of mentions come to taking in the mentions. -/
theorem read_mentions (fits : ∀ m ∈ ms, m.Fits s) (r : Reading) (tail : List String) :
    s.read r (ms.flatMap Mention.words ++ tail) =
      ms.foldlM Reading.pass r >>= fun r => s.read r tail := by
  induction ms generalizing r with
  | nil => rfl
  | cons m ms ih =>
    obtain ⟨first, others⟩ := List.forall_mem_cons.mp fits
    rw [List.flatMap_cons, List.append_assoc, read_mention first, List.foldlM_cons, bind_assoc]
    congr 1
    funext z
    exact ih others z

theorem read_rest {rest : Rest} (fits : rest.Fits s) (complete : r.Complete) :
    s.read r rest.toWords = .ok (r, rest) := by
  cases rest with
  | nothing => rfl
  | escaped tail =>
    have piece : s.piece "--" = .escape := rfl
    simp only [Rest.toWords, read, piece]
  | words first tail =>
    have piece : s.piece first = .plain := fits
    simp only [Rest.toWords, read, piece]
    cases h : r.pending with
    | nothing | held => rfl
    | awaiting o => exact absurd h (complete o)

/-- Options and what follows them are read as they are written. -/
theorem read_written {rest : Rest} (fits : ∀ m ∈ ms, m.Fits s) (restFits : rest.Fits s)
    (complete : r.Complete) : s.read r (ms.flatMap Mention.words ++ rest.toWords) =
      ms.foldlM Reading.pass r >>= fun r => pure (r, rest) := by
  rw [read_mentions fits]
  cases passed : ms.foldlM Reading.pass r with
  | error u => rfl
  | ok z => exact read_rest restFits (Reading.foldlM_pass_complete fits complete passed)

/-- The words are mentions, and a rest behind them. -/
def Consists (s : Scope) (words : List String) (rest : Rest) : Prop :=
  ∃ ms : List Mention, (∀ m ∈ ms, m.Fits s) ∧ rest.Fits s ∧
    words = ms.flatMap Mention.words ++ rest.toWords

theorem Consists.cons {words : List String} {rest : Rest} {m : Mention} (fits : m.Fits s)
    (h : s.Consists words rest) : s.Consists (m.words ++ words) rest := by
  obtain ⟨ms, others, restFits, rfl⟩ := h
  refine ⟨m :: ms, List.forall_mem_cons.mpr ⟨fits, others⟩, restFits, ?_⟩
  rw [List.flatMap_cons, List.append_assoc]

/-- An option that the reading meets is the start of a mention. -/
theorem Consists.of_option {o : OptionName} {value : Option String} {word : String}
    {tail : List String} {rest : Rest} {met : Reading} (piece : s.piece word = .option o value)
    (meets : r.meet o value = .ok met) (complete : met.Complete → s.Consists tail rest)
    (awaiting : ∀ o, met.pending = .awaiting o → ∃ text tail',
      tail = text :: tail' ∧ s.piece text = .plain ∧ s.Consists tail' rest) :
    s.Consists (word :: tail) rest := by
  obtain ⟨mem, rfl, switch⟩ := piece_eq_option piece
  cases value with
  | some text =>
    have fits : Mention.Fits s ⟨o, .joined text⟩ := ⟨mem, fun kind => nomatch switch kind⟩
    exact (complete (Reading.meet_complete (by simp) meets)).cons fits
  | none =>
    cases implied : o.kind.implied? with
    | some text =>
      have alone : o.kind.implied? ≠ none := by simp [implied]
      have fits : Mention.Fits s ⟨o, .alone⟩ := ⟨mem, alone⟩
      exact (complete (Reading.meet_complete alone meets)).cons fits
    | none =>
      -- The value is the next word.
      have waits : met.pending = .awaiting o := by
        rw [Reading.meet_eq_awaiting implied] at meets
        obtain ⟨z, -, waits⟩ := bind_eq_ok_iff.mp meets
        obtain rfl := Except.ok.inj waits
        rfl
      obtain ⟨text, tail', rfl, plain, consists⟩ := awaiting o waits
      have fits : Mention.Fits s ⟨o, .apart text⟩ := ⟨mem, implied, plain⟩
      exact consists.cons fits

/-- What is read, and leaves no value to come, consists of mentions and a rest. If a value was still
to come at the start, the first word is that value. -/
theorem consists_of_read {words : List String} {rest : Rest} {z : Reading}
    (h : s.read r words = .ok (r', rest)) (settled : r'.settle = .ok z) :
    (r.Complete → s.Consists words rest) ∧
    ∀ o, r.pending = .awaiting o → ∃ text tail,
      words = text :: tail ∧ s.piece text = .plain ∧ s.Consists tail rest := by
  induction words generalizing r with
  | nil =>
    obtain ⟨rfl, rfl⟩ := Prod.mk.inj (Except.ok.inj h)
    exact ⟨fun _ => ⟨[], nofun, trivial, rfl⟩,
      fun o awaiting => absurd settled (Reading.settle_awaiting awaiting)⟩
  | cons word tail ih =>
    rw [read] at h
    cases piece : s.piece word with
    | escape =>
      simp only [piece] at h
      obtain ⟨rfl, rfl⟩ := Prod.mk.inj (Except.ok.inj h)
      refine ⟨fun _ => ⟨[], nofun, trivial, ?_⟩,
        fun o awaiting => absurd settled (Reading.settle_awaiting awaiting)⟩
      rw [piece_eq_escape piece]
      rfl
    | help | version =>
      simp only [piece] at h
      exact absurd h Reading.stop_ne_ok
    | surplus | strange =>
      simp only [piece] at h
      cases h
    | option o value =>
      simp only [piece] at h
      obtain ⟨met, meets, reads⟩ := bind_eq_ok_iff.mp h
      obtain ⟨complete, awaiting⟩ := ih reads
      refine ⟨fun _ => .of_option piece meets complete awaiting, fun p waits => ?_⟩
      obtain ⟨z, out, -⟩ := bind_eq_ok_iff.mp meets
      exact absurd out (Reading.settle_awaiting waits)
    | plain =>
      simp only [piece] at h
      cases waits : r.pending with
      | awaiting o =>
        simp only [waits] at h
        have held : s.Consists tail rest := (ih h).1 fun p => by simp
        exact ⟨fun complete => absurd waits (complete o), fun _ _ => ⟨word, tail, rfl, piece, held⟩⟩
      | nothing | held =>
        simp only [waits] at h
        obtain ⟨rfl, rfl⟩ := Prod.mk.inj (Except.ok.inj h)
        exact ⟨fun _ => ⟨[], nofun, piece, rfl⟩, nofun⟩

end Scope

end CommandLine

end Testbed
