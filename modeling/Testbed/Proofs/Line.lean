import Testbed.Proofs.Mention

/-!
# Whole command lines

A line is a command line taken apart: the options in front of the command, the command, the options
behind it, and the rest. Every command line that is understood is a line. What is understood of a
line can be said option by option: a value that is written behind the command comes first, then one
in front of it, and then that of a variable.
-/

namespace Testbed.CommandLine

/-! ## The values of options -/

def Mention.valueOf (m : Mention) (o : OptionName) : Option o.Value :=
  if m.option = o then (o.kind.read m.text).toOption else none

def Mention.Readable (m : Mention) : Prop :=
  ∃ value, m.option.kind.read m.text = .ok value

def valuesOf (ms : List Mention) : Given := fun o =>
  ms.findSome? (·.valueOf o)

def variableText (environment : Variables) (o : OptionName) : Option String :=
  o.standIn?.bind environment

def variableValue (environment : Variables) (o : OptionName) : Option o.Value :=
  (variableText environment o).bind fun text => (o.kind.read text).toOption

/-- The variables of those options have a value that are not given otherwise. -/
def VariablesReadable (environment : Variables) (typed : Given) (options : List OptionName) :
    Prop :=
  ∀ o ∈ options, typed o = none → ∀ text, variableText environment o = some text →
    ∃ value, o.kind.read text = .ok value

def standIns (environment : Variables) (options : List OptionName) : Given := fun o =>
  if o ∈ options then variableValue environment o else none

section Values

variable {m : Mention} {ms : List Mention} {o : OptionName} {g g' : Given}

theorem Mention.valueOf_same {value : m.option.Value}
    (h : m.option.kind.read m.text = .ok value) : m.valueOf m.option = some value := by
  rw [valueOf, if_pos rfl, h]
  rfl

theorem Mention.valueOf_other (h : m.option ≠ o) : m.valueOf o = none :=
  if_neg h

theorem valuesOf_cons_same {value : m.option.Value}
    (h : m.option.kind.read m.text = .ok value) : valuesOf (m :: ms) m.option = some value := by
  simp [valuesOf, m.valueOf_same h]

theorem valuesOf_cons_other (h : m.option ≠ o) : valuesOf (m :: ms) o = valuesOf ms o := by
  simp [valuesOf, m.valueOf_other h]

theorem valuesOf_unmentioned (h : ∀ m ∈ ms, m.option ≠ o) : valuesOf ms o = none :=
  List.findSome?_eq_none_iff.mpr fun m mem => m.valueOf_other (h m mem)

/-- Of an option that is mentioned once it does not matter where. -/
theorem valuesOf_middle {a b : List Mention} (h : ∀ n ∈ a ++ b, n.option ≠ m.option) :
    valuesOf (a ++ m :: b) = valuesOf (m :: (a ++ b)) := by
  funext o
  by_cases same : m.option = o
  · subst same
    have front : ∀ n ∈ a, n.option ≠ m.option := fun n mem => h n (List.mem_append_left _ mem)
    simp only [valuesOf, List.findSome?_append, List.findSome?_cons]
    rw [show a.findSome? (·.valueOf m.option) = none from valuesOf_unmentioned front]
    have back : ∀ n ∈ b, n.option ≠ m.option := fun n mem => h n (List.mem_append_right _ mem)
    rw [show b.findSome? (·.valueOf m.option) = none from valuesOf_unmentioned back]
    cases m.valueOf m.option <;> rfl
  · simp [valuesOf, List.findSome?_append, m.valueOf_other same]

theorem put_orElse {value : m.option.Value} (free : g m.option = none)
    (h : m.option.kind.read m.text = .ok value) :
    (g.put m.option value).orElse (valuesOf ms) = g.orElse (valuesOf (m :: ms)) := by
  funext o
  by_cases same : m.option = o
  · subst same
    simp [Given.orElse, free, valuesOf_cons_same h]
  · simp [Given.orElse, Given.put_other _ _ same, valuesOf_cons_other same]

theorem put_eq_none_iff {p : OptionName} {value : o.Value} :
    g.put o value p = none ↔ o ≠ p ∧ g p = none := by
  by_cases same : o = p
  · subst same
    simp
  · simp [same, Given.put_other]

/-- All values can be taken if every option is mentioned once and can be read. -/
theorem foldlM_accept_eq_ok_iff {z : Reading} :
    ms.foldlM Reading.accept { given := g } = .ok z ↔
      ((ms.map Mention.option).Nodup ∧ (∀ m ∈ ms, g m.option = none ∧ m.Readable)) ∧
        z = { given := g.orElse (valuesOf ms) } := by
  induction ms generalizing g with
  | nil =>
    have none : g.orElse (valuesOf []) = g := Given.orElse_empty g
    rw [none]
    simpa using ⟨fun h => (Except.ok.inj h).symm, fun h => congrArg _ h.symm⟩
  | cons m ms ih =>
    rw [List.foldlM_cons]
    by_cases free : g m.option = none
    · cases read : m.option.kind.read m.text with
      | error fault =>
        have taken : Reading.accept { given := g } m = .error (.badValue m.option fault) := by
          simp [Reading.accept, Reading.take, Given.has, free, read]
        rw [taken]
        constructor
        · nofun
        · rintro ⟨⟨-, all⟩, -⟩
          obtain ⟨value, readable⟩ := (all m List.mem_cons_self).2
          cases read.symm.trans readable
      | ok value =>
        have taken : Reading.accept { given := g } m =
            .ok { given := g.put m.option value } := by
          simp [Reading.accept, Reading.take, Given.has, free, read]
        rw [taken]
        refine Iff.trans (ih (g := g.put m.option value)) ?_
        rw [put_orElse free read]
        refine and_congr_left fun _ => ?_
        have readable : m.Readable := ⟨value, read⟩
        simp only [put_eq_none_iff, List.map_cons, List.nodup_cons, List.forall_mem_cons,
          List.mem_map, not_exists, not_and]
        constructor
        · rintro ⟨distinct, others⟩
          exact ⟨⟨fun n mem same => (others n mem).1.1 same.symm, distinct⟩, ⟨free, readable⟩,
            fun n mem => ⟨(others n mem).1.2, (others n mem).2⟩⟩
        · rintro ⟨⟨new, distinct⟩, -, others⟩
          exact ⟨distinct, fun n mem =>
            ⟨⟨fun same => new n mem same.symm, (others n mem).1⟩, (others n mem).2⟩⟩
    · have taken : Reading.accept { given := g } m = .error (.repeated m.option) := by
        simp [Reading.accept, Reading.take, Given.has, Option.isSome_iff_ne_none, free]
      rw [taken]
      constructor
      · nofun
      · rintro ⟨⟨-, all⟩, -⟩
        exact absurd (all m List.mem_cons_self).1 free

end Values

/-! ## The values of variables -/

section Variables

variable {environment : Variables} {typed g : Given} {options : List OptionName}

/-- Takes the variable of an option that is not given otherwise. -/
def fill (environment : Variables) (typed g : Given) (o : OptionName) : Except Usage Given :=
  match variableText environment o with
  | some text =>
    if typed.has o then .ok g
    else
      match o.kind.read text with
      | .ok value => .ok (g.put o value)
      | .error fault => .error (.badValue o fault)
  | none => .ok g

theorem ambient_eq :
    ambient environment typed options = options.foldlM (fill environment typed) .empty :=
  rfl

/-- The values of variables where no other value is given. -/
def fillings (environment : Variables) (typed : Given) (options : List OptionName) : Given :=
  fun o => if typed o = none then standIns environment options o else none

theorem fillings_cons_other {o p : OptionName} (h : p ≠ o) :
    fillings environment typed (o :: options) p = fillings environment typed options p := by
  simp [fillings, standIns, h]

theorem fillings_nil : fillings environment typed [] = .empty := by
  funext o
  simp [fillings, standIns, Given.empty]

/-- An option with a readable variable. -/
theorem put_fillings {o : OptionName} {text : String} {value : o.Value} (free : typed o = none)
    (stands : variableText environment o = some text) (read : o.kind.read text = .ok value) :
    (fillings environment typed options).orElse (g.put o value) =
      (fillings environment typed (o :: options)).orElse g := by
  have given : variableValue environment o = some value := by
    rw [variableValue, stands, Option.bind_some, read]
    rfl
  funext p
  by_cases same : p = o
  · subst same
    by_cases mem : p ∈ options <;>
      simp [Given.orElse, fillings, standIns, free, given, mem]
  · simp [Given.orElse, fillings_cons_other same, Given.put_other _ _ (Ne.symm same)]

/-- An option whose variable is not looked at, or not there. -/
theorem skip_fillings {o : OptionName} (h : typed o = none → variableText environment o = none) :
    fillings environment typed (o :: options) = fillings environment typed options := by
  funext p
  by_cases same : p = o
  · subst same
    by_cases free : typed p = none
    · simp [fillings, standIns, free, variableValue, h free]
    · simp [fillings, free]
  · exact fillings_cons_other same

theorem foldlM_fill_eq_ok_iff {z : Given} : options.foldlM (fill environment typed) g = .ok z ↔
    VariablesReadable environment typed options ∧
      z = (fillings environment typed options).orElse g := by
  induction options generalizing g with
  | nil =>
    rw [fillings_nil, Given.empty_orElse]
    simpa [VariablesReadable] using ⟨fun h => (Except.ok.inj h).symm, fun h => congrArg _ h.symm⟩
  | cons o options ih =>
    have split : VariablesReadable environment typed (o :: options) ↔
        (typed o = none → ∀ text, variableText environment o = some text →
          ∃ value, o.kind.read text = .ok value) ∧ VariablesReadable environment typed options :=
      List.forall_mem_cons
    rw [List.foldlM_cons, split]
    by_cases skipped : typed o = none → variableText environment o = none
    · have filled : fill environment typed g o = .ok g := by
        unfold fill
        cases stands : variableText environment o with
        | none => rfl
        | some text =>
          have given : typed o ≠ none := fun free => by simp [skipped free] at stands
          simp [Given.has, Option.isSome_iff_ne_none, given]
      rw [filled, skip_fillings skipped]
      refine Iff.trans ih (and_congr_left fun _ => ?_)
      refine ⟨fun others => ⟨fun free text stands => ?_, others⟩, fun h => h.2⟩
      cases stands.symm.trans (skipped free)
    · obtain ⟨free, there⟩ := Classical.not_imp.mp skipped
      obtain ⟨text, stands⟩ := Option.ne_none_iff_exists'.mp there
      cases read : o.kind.read text with
      | error fault =>
        have filled : fill environment typed g o = .error (.badValue o fault) := by
          simp [fill, stands, Given.has, free, read]
        rw [filled]
        constructor
        · nofun
        · rintro ⟨⟨first, -⟩, -⟩
          obtain ⟨value, readable⟩ := first free text stands
          cases read.symm.trans readable
      | ok value =>
        have filled : fill environment typed g o = .ok (g.put o value) := by
          simp [fill, stands, Given.has, free, read]
        rw [filled]
        refine Iff.trans ih ?_
        rw [put_fillings free stands read]
        refine and_congr_left fun _ =>
          ⟨fun others => ⟨fun _ text' same => ?_, others⟩, fun h => h.2⟩
        obtain rfl := Option.some.inj (stands.symm.trans same)
        exact ⟨value, read⟩

/-- Variables can be read unless one of them has to be and cannot. -/
theorem ambient_eq_ok_iff {z : Given} : ambient environment typed options = .ok z ↔
    VariablesReadable environment typed options ∧ z = fillings environment typed options := by
  rw [ambient_eq, foldlM_fill_eq_ok_iff, Given.orElse_empty]

end Variables

/-! ## Reading all options of a scope -/

section Scopes

variable {environment : Variables} {s : Scope} {ms : List Mention}

/-- The options of a scope can be taken in if each is mentioned once, all values can be read, and so
can the variables of the options that are not mentioned. -/
structure Sound (environment : Variables) (s : Scope) (ms : List Mention) : Prop where
  distinct : (ms.map Mention.option).Nodup
  readable : ∀ m ∈ ms, m.Readable
  ambient : VariablesReadable environment (valuesOf ms) s.options

/-- The values of a scope whose options can be taken in. -/
theorem foldlM_pass_finish_eq_ok_iff (fits : ∀ m ∈ ms, m.Fits s) {values : Values} :
    (ms.foldlM Reading.pass {} >>= s.finish environment) = .ok values ↔
      Sound environment s ms ∧
        values =
          { typed := valuesOf ms, ambient := fillings environment (valuesOf ms) s.options } := by
  have finish : (ms.foldlM Reading.pass {} >>= s.finish environment) =
      ms.foldlM Reading.accept {} >>= fun r =>
        ambient environment r.given s.options >>= fun g =>
          .ok { typed := r.given, ambient := g } := by
    calc ms.foldlM Reading.pass {} >>= s.finish environment
        = (ms.foldlM Reading.pass {} >>= Reading.settle) >>= fun r =>
            ambient environment r.given s.options >>= fun g =>
              .ok { typed := r.given, ambient := g } := by
          rw [bind_assoc]
          rfl
      _ = ms.foldlM Reading.accept {} >>= fun r =>
            ambient environment r.given s.options >>= fun g =>
              .ok { typed := r.given, ambient := g } := by
          rw [Reading.foldlM_pass_settle fits]
          rfl
  rw [finish]
  constructor
  · intro h
    obtain ⟨r, taken, filling⟩ := bind_eq_ok_iff.mp h
    obtain ⟨⟨distinct, all⟩, rfl⟩ := foldlM_accept_eq_ok_iff.mp taken
    rw [Given.empty_orElse] at filling
    obtain ⟨g, filled, same⟩ := bind_eq_ok_iff.mp filling
    obtain ⟨readable, rfl⟩ := ambient_eq_ok_iff.mp filled
    exact ⟨⟨distinct, fun m mem => (all m mem).2, readable⟩, (Except.ok.inj same).symm⟩
  · rintro ⟨sound, rfl⟩
    have taken : ms.foldlM Reading.accept {} = .ok { given := valuesOf ms } :=
      (foldlM_accept_eq_ok_iff (g := .empty)).mpr
        ⟨⟨sound.distinct, fun m mem => ⟨rfl, sound.readable m mem⟩⟩, rfl⟩
    have filled := ambient_eq_ok_iff.mpr ⟨sound.ambient, rfl⟩
    exact bind_eq_ok_iff.mpr ⟨_, taken, bind_eq_ok_iff.mpr ⟨_, filled, rfl⟩⟩

end Scopes

/-! ## Lines -/

/-- A command line taken apart. -/
structure Line where
  before : List Mention
  verb : Verb
  after : List Mention
  rest : Rest
  deriving DecidableEq

namespace Line

def words (line : Line) : List String :=
  line.before.flatMap Mention.words ++
    line.verb.word :: (line.after.flatMap Mention.words ++ line.rest.toWords)

/-- Everything is where it may stand. -/
structure Fits (line : Line) : Prop where
  before : ∀ m ∈ line.before, m.Fits outerScope
  after : ∀ m ∈ line.after, m.Fits line.verb.scope
  rest : line.rest.Fits line.verb.scope

def given (line : Line) (environment : Variables) : Given :=
  (valuesOf line.after).orElse
    ((valuesOf line.before).orElse (standIns environment line.verb.scope.options))

structure Sound (line : Line) (environment : Variables) : Prop where
  before : CommandLine.Sound environment outerScope line.before
  after : CommandLine.Sound environment line.verb.scope line.after

end Line

theorem outerScope_piece_word (v : Verb) :
    outerScope.piece v.word = .plain ∧ v.word ≠ helpWord := by
  cases v with
  | runScript script => cases script <;> decide +kernel
  | _ => decide +kernel

/-- A line is read in two scopes, the one behind the command first. -/
theorem parse_words (environment : Variables) {line : Line} (fits : line.Fits) :
    parse environment line.words = do
      let outer ← line.before.foldlM Reading.pass {}
      let inner ← line.after.foldlM Reading.pass {}
      let passed ← line.verb.words line.rest
      let innerValues ← line.verb.scope.finish environment inner
      let command ← line.verb.command (innerValues.typed.orElse innerValues.ambient) passed
      let outerValues ← outerScope.finish environment outer
      return ofGiven (joined innerValues outerValues) command := by
  obtain ⟨plain, noHelp⟩ := outerScope_piece_word line.verb
  have start : Reading.Complete {} := nofun
  have restFits : Rest.Fits outerScope
      (.words line.verb.word (line.after.flatMap Mention.words ++ line.rest.toWords)) := plain
  have outer : outerScope.read {} line.words = line.before.foldlM Reading.pass {} >>= fun r =>
      pure (r, .words line.verb.word (line.after.flatMap Mention.words ++ line.rest.toWords)) :=
    Scope.read_written fits.before restFits start
  have inner : line.verb.scope.read {} (line.after.flatMap Mention.words ++ line.rest.toWords) =
      line.after.foldlM Reading.pass {} >>= fun r => pure (r, line.rest) :=
    Scope.read_written fits.after fits.rest start
  unfold parse
  simp only [outer, bind_assoc, pure_bind, noHelp, ↓reduceIte, Verb.ofWord?_word, Verb.read, inner]

/-- Every command line that is understood is a line. -/
theorem exists_line {environment : Variables} {arguments : List String} {l : CommandLine}
    (h : parse environment arguments = .ok l) :
    ∃ line : Line, line.Fits ∧ line.words = arguments := by
  obtain ⟨⟨outer, rest⟩, reads, h⟩ := bind_eq_ok_iff.mp h
  cases rest with
  | nothing =>
    obtain ⟨_, -, thrown⟩ := bind_eq_ok_iff.mp h
    cases thrown
  | escaped tail =>
    cases tail with
    | nil =>
      obtain ⟨_, -, thrown⟩ := bind_eq_ok_iff.mp h
      cases thrown
    | cons => cases h
  | words word tail =>
    simp only at h
    split at h
    · cases h
    split at h
    · cases h
    rename_i v found
    obtain ⟨⟨values, command⟩, readVerb, h⟩ := bind_eq_ok_iff.mp h
    obtain ⟨outerValues, finished, -⟩ := bind_eq_ok_iff.mp h
    obtain ⟨⟨inner, innerRest⟩, innerReads, readVerb⟩ := bind_eq_ok_iff.mp readVerb
    obtain ⟨passed, -, readVerb⟩ := bind_eq_ok_iff.mp readVerb
    obtain ⟨innerValues, innerFinished, -⟩ := bind_eq_ok_iff.mp readVerb
    obtain ⟨z, settled, -⟩ := bind_eq_ok_iff.mp finished
    obtain ⟨z', innerSettled, -⟩ := bind_eq_ok_iff.mp innerFinished
    have start : Reading.Complete {} := nofun
    obtain ⟨before, beforeFits, -, rfl⟩ := (Scope.consists_of_read reads settled).1 start
    obtain ⟨after, afterFits, restFits, rfl⟩ :=
      (Scope.consists_of_read innerReads innerSettled).1 start
    have same : v.word = word := by simpa using List.find?_some found
    refine ⟨⟨before, v, after, innerRest⟩, ⟨beforeFits, afterFits, restFits⟩, ?_⟩
    rw [Line.words, same]
    rfl

/-! ## What is understood of a line -/

section Understood

variable {environment : Variables} {line : Line}

/-- Where a value is given already, it does not matter whether the variable is read. -/
theorem orElse_fillings (typed other : Given) (options : List OptionName) :
    typed.orElse (other.orElse (fillings environment typed options)) =
      typed.orElse (other.orElse (standIns environment options)) := by
  funext o
  cases h : typed o <;> simp [Given.orElse, fillings, h]

/-- The options of a command of its own are given behind it only. -/
theorem given_own (fits : line.Fits) {o : OptionName} (own : o ∉ OptionName.everywhere) :
    line.given environment o =
      (valuesOf line.after).orElse (standIns environment line.verb.scope.options) o := by
  have unmentioned : valuesOf line.before o = none := by
    refine valuesOf_unmentioned fun m mem same => own ?_
    rw [← same]
    exact (fits.before m mem).1
  simp [Line.given, Given.orElse, unmentioned]

/-- A command looks at its own options only. -/
theorem command_congr {v : Verb} {g g' : Given} (same : ∀ o ∉ OptionName.everywhere, g o = g' o)
    (passed : List String) : v.command g passed = v.command g' passed := by
  have database : g .database = g' .database := same _ (by decide)
  have api : g .api = g' .api := same _ (by decide)
  have unknown : g .unknown = g' .unknown := same _ (by decide)
  have name : g .name = g' .name := same _ (by decide)
  have directory : g .workingDirectory = g' .workingDirectory := same _ (by decide)
  have conflict : Verb.conflict? g = Verb.conflict? g' := by
    simp only [Verb.conflict?, List.find?_cons, List.find?_nil, Given.has, database, api, unknown]
  simp only [Verb.command, Verb.target, Given.has, conflict, database, api, unknown, name,
    directory]

/-- A line is understood if all its options can be taken in, and the command can be made of what
they and the words say. -/
theorem parse_eq_ok_iff (fits : line.Fits) {l : CommandLine} :
    parse environment line.words = .ok l ↔ line.Sound environment ∧
      ∃ passed, line.verb.words line.rest = .ok passed ∧
      ∃ command, line.verb.command (line.given environment) passed = .ok command ∧
        l = ofGiven (line.given environment) command := by
  have own (passed : List String) :
      line.verb.command ((valuesOf line.after).orElse
        (fillings environment (valuesOf line.after) line.verb.scope.options)) passed =
      line.verb.command (line.given environment) passed := by
    refine command_congr (fun o own => ?_) passed
    rw [given_own fits own]
    exact congrFun (orElse_fillings (valuesOf line.after) .empty line.verb.scope.options) o
  rw [parse_words environment fits]
  constructor
  · intro h
    obtain ⟨outer, outerPasses, h⟩ := bind_eq_ok_iff.mp h
    obtain ⟨inner, innerPasses, h⟩ := bind_eq_ok_iff.mp h
    obtain ⟨passed, words, h⟩ := bind_eq_ok_iff.mp h
    obtain ⟨innerValues, innerFinishes, h⟩ := bind_eq_ok_iff.mp h
    obtain ⟨command, made, h⟩ := bind_eq_ok_iff.mp h
    obtain ⟨outerValues, outerFinishes, h⟩ := bind_eq_ok_iff.mp h
    obtain ⟨innerSound, rfl⟩ := (foldlM_pass_finish_eq_ok_iff fits.after).mp
      (bind_eq_ok_iff.mpr ⟨inner, innerPasses, innerFinishes⟩)
    obtain ⟨outerSound, rfl⟩ := (foldlM_pass_finish_eq_ok_iff fits.before).mp
      (bind_eq_ok_iff.mpr ⟨outer, outerPasses, outerFinishes⟩)
    rw [own] at made
    refine ⟨⟨outerSound, innerSound⟩, passed, words, command, made, ?_⟩
    rw [← Except.ok.inj h, joined, orElse_fillings]
    rfl
  · rintro ⟨sound, passed, words, command, made, rfl⟩
    obtain ⟨inner, innerPasses, innerFinishes⟩ := bind_eq_ok_iff.mp
      ((foldlM_pass_finish_eq_ok_iff fits.after).mpr ⟨sound.after, rfl⟩)
    obtain ⟨outer, outerPasses, outerFinishes⟩ := bind_eq_ok_iff.mp
      ((foldlM_pass_finish_eq_ok_iff fits.before).mpr ⟨sound.before, rfl⟩)
    rw [← own] at made
    refine bind_eq_ok_iff.mpr ⟨outer, outerPasses, bind_eq_ok_iff.mpr ⟨inner, innerPasses,
      bind_eq_ok_iff.mpr ⟨passed, words, bind_eq_ok_iff.mpr ⟨_, innerFinishes,
      bind_eq_ok_iff.mpr ⟨command, made, bind_eq_ok_iff.mpr ⟨_, outerFinishes, ?_⟩⟩⟩⟩⟩⟩
    rw [joined, orElse_fillings]
    rfl

end Understood

end Testbed.CommandLine
