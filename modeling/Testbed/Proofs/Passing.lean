import Testbed.Proofs.Line
import Testbed.Proofs.Scenario

/-!
# Words that are passed on

A command that passes words on takes them as they are. Whatever stands behind two hyphens is passed
on, and so is everything from the first word on that looks like no option. A scenario starts exactly
the program and the arguments that it was given.
-/

namespace Testbed

open CommandLine

namespace CommandLine

def targetOptions : List OptionName :=
  [.database, .api, .unknown]

/-- Options in front of a command and behind it that are complete and valid. -/
structure Admissible (environment : Variables) (before : List Mention) (v : Verb)
    (after : List Mention) : Prop where
  front : ∀ m ∈ before, m.Fits outerScope
  behind : ∀ m ∈ after, m.Fits v.scope
  frontSound : Sound environment outerScope before
  behindSound : Sound environment v.scope after
  /-- There is one target at most. -/
  target : ∀ m ∈ after, ∀ n ∈ after, m.option ∈ targetOptions → n.option ∈ targetOptions →
    m.option = n.option

section Tokens

variable {environment : Variables} {before after : List Mention} {v : Verb} {rest : Rest}

/-- The words of options, a command and more options. -/
def prefixWords (before : List Mention) (v : Verb) (after : List Mention) : List String :=
  before.flatMap Mention.words ++ v.word :: after.flatMap Mention.words

theorem words_eq :
    Line.words ⟨before, v, after, rest⟩ = prefixWords before v after ++ rest.toWords := by
  simp [Line.words, prefixWords]

/-- No variable stands in for an option that names a target, so it has to be written. -/
theorem mentioned_of_has {line : Line} (fits : line.Fits) {o : OptionName}
    (names : o ∈ targetOptions) (h : (line.given environment).has o = true) :
    ∃ m ∈ line.after, m.option = o := by
  have all : ∀ o ∈ targetOptions, o ∉ OptionName.everywhere ∧ o.standIn? = none := by decide
  have own := all o names
  have absent : standIns environment line.verb.scope.options o = none := by
    simp [standIns, variableValue, variableText, own.2]
  refine Classical.byContradiction fun none => ?_
  have unmentioned : valuesOf line.after o = .none :=
    valuesOf_unmentioned fun m mem same => none ⟨m, mem, same⟩
  rw [Given.has, given_own fits own.1, Given.orElse, unmentioned] at h
  simp [absent] at h

theorem conflict?_eq_none (h : Admissible environment before v after)
    (fits : Line.Fits ⟨before, v, after, rest⟩) :
    Verb.conflict? (Line.given ⟨before, v, after, rest⟩ environment) = none := by
  have alone {o p : OptionName} (ho : o ∈ targetOptions) (hp : p ∈ targetOptions) (differ : o ≠ p) :
      ¬ ((Line.given ⟨before, v, after, rest⟩ environment).has o = true ∧
        (Line.given ⟨before, v, after, rest⟩ environment).has p = true) := by
    rintro ⟨first, second⟩
    obtain ⟨m, mem, rfl⟩ := mentioned_of_has fits ho first
    obtain ⟨n, mem', rfl⟩ := mentioned_of_has fits hp second
    exact differ (h.target m mem n mem' ho hp)
  simp only [Verb.conflict?, List.find?_eq_none, List.forall_mem_cons, Bool.and_eq_true]
  exact ⟨alone (by decide) (by decide) (by decide), alone (by decide) (by decide) (by decide),
    alone (by decide) (by decide) (by decide), List.forall_mem_nil _⟩

inductive Makes : Verb → (List String → Command) → Prop
  | runScript (script : Script.Name) (target : Target) :
      Makes (.runScript script) (.runScript script target)
  | scenario (target : Target) (directory : String) : Makes .scenario (.scenario target directory)

theorem exists_makes {g : Given} (takes : v.takesWords = true) (free : Verb.conflict? g = none) :
    ∃ make, Makes v make ∧ ∀ words, v.command g words = .ok (make words) := by
  cases v with
  | runScript script =>
    refine ⟨_, .runScript script (Verb.target g), fun words => ?_⟩
    simp [Verb.command, free]
  | scenario =>
    refine ⟨_, .scenario (Verb.target g) ((g .workingDirectory).getD ""), fun words => ?_⟩
    simp [Verb.command, free]
  | setupTemplate | setupDatabase | teardownDatabase | dropDatabase | writeConfig => cases takes

theorem words_of_takes (takes : v.takesWords = true) :
    ∀ words, v.words (.escaped words) = .ok words ∧
      ∀ first others, v.words (.words first others) = .ok (first :: others) := by
  intro words
  cases words <;> simp [Verb.words, takes]

/-- A line with words that are passed on is understood, and the words change nothing else. -/
theorem parse_passing (h : Admissible environment before v after) (takes : v.takesWords = true) :
    ∃ (l : CommandLine) (make : List String → Command), Makes v make ∧
      ∀ (rest : Rest) words, rest.Fits v.scope → v.words rest = .ok words →
        parse environment (Line.words ⟨before, v, after, rest⟩) =
          .ok { l with command := make words } := by
  have fits {rest : Rest} (h' : rest.Fits v.scope) : Line.Fits ⟨before, v, after, rest⟩ :=
    ⟨h.front, h.behind, h'⟩
  have free := conflict?_eq_none h (@fits .nothing trivial)
  obtain ⟨make, makes, made⟩ := exists_makes takes free
  refine ⟨ofGiven (Line.given ⟨before, v, after, .nothing⟩ environment) (make []), make, makes, ?_⟩
  intro rest words restFits passed
  refine (parse_eq_ok_iff (fits restFits)).mpr ⟨⟨h.frontSound, h.behindSound⟩, ?_⟩
  exact ⟨words, passed, make words, made words, rfl⟩

end Tokens

end CommandLine

/-! ## The program that a scenario runs -/

namespace Command

open Fixture Work

variable {σ Session : Type}

def commandLines (events : List (Event Session)) : List (List String) :=
  events.filterMap fun e => e.command?.map (·.command)

theorem commandLines_append (es fs : List (Event Session)) :
    commandLines (es ++ fs) = commandLines es ++ commandLines fs :=
  List.filterMap_append

theorem commandLines_quiet {es : List (Event Session)} (h : ∀ e ∈ es, e.command? = none) :
    commandLines es = [] :=
  List.filterMap_eq_nil_iff.mpr fun e mem => by rw [h e mem]; rfl

theorem commandLines_removing {p : Plan} (session : Option Session) (r : Except Failure Unit) :
    commandLines (removing p session r) = [] := by
  apply commandLines_quiet
  cases session with
  | none => nofun
  | some session =>
    cases h : p.config.keepTestDatabase <;> simp [removing, h, Event.command?]

/-- A scenario that was prepared runs its program once, and any other runs none. -/
theorem Played.commandLines {p : Plan} {S : Stage σ Session} {target : Target}
    {i : Bench (Chronicle σ Session) → Script.Invocation} {b b' : Bench (Chronicle σ Session)}
    {r : Except Failure Unit} (h : Played p S target i b r b') (fresh : b.world.events = [])
    {command : List String} (same : ∀ m, (i m).command = command) :
    Command.commandLines b'.world.events =
      if (openScenario p S.watched target b).1.isOk then [command] else [] := by
  cases h with
  | unprepared prepared =>
    rw [prepared]
    exact commandLines_quiet (openScenario_quiet fresh prepared).1
  | @played session m outcome removal _ prepared website events sure told =>
    have before : Command.commandLines m.world.events = [] :=
      commandLines_quiet (openScenario_quiet fresh prepared).1
    have run : Command.commandLines [(.ranCommand (i m) outcome : Event Session)] =
        [command] := by
      simp [Command.commandLines, Event.command?, same]
    rw [prepared, events, List.append_cons, commandLines_append, commandLines_append, before, run,
      commandLines_removing]
    rfl

/-- Exactly the given words are run, once, if there are any and the scenario can be prepared. If it
takes place in the working directory, that has to be known. -/
theorem commandLines_scenario (S : Stage σ Session) (config : Config) (workingDirectory : String)
    (target : Target) (directory : String) (words : List String) (w : σ) :
    let b : Bench (Chronicle σ Session) := { world := { world := w } }
    let scenario : Command := .scenario target directory words
    commandLines (run S.watched config workingDirectory scenario b).2.world.events =
      match Plan.ofConfig config workingDirectory with
      | .error _ => []
      | .ok p =>
        if words ≠ [] ∧ (directory = "" → (S.directoryFault w).isNone = true) ∧
            (openScenario p S.watched target b).1.isOk = true then [words]
        else [] := by
  intro b scenario
  have conditions : scenario.refusal? S.watched b.world = none ↔
      words ≠ [] ∧ (directory = "" → (S.directoryFault w).isNone = true) :=
    refusal?_scenario_eq_none_iff S.watched target directory words b.world
  cases accepted : scenario.refusal? S.watched b.world with
  | some e =>
    have unmet : ¬ (words ≠ [] ∧ (directory = "" → (S.directoryFault w).isNone = true)) :=
      fun met => nomatch accepted.symm.trans (conditions.mpr met)
    rw [run, bind_apply, look_apply, accepted]
    cases Plan.ofConfig config workingDirectory with
    | error _ => rfl
    | ok p => exact (if_neg fun met => unmet ⟨met.1, met.2.1⟩).symm
  | none =>
    obtain ⟨given, known⟩ := conditions.mp accepted
    cases planned : Plan.ofConfig config workingDirectory with
    | error e =>
      rw [run, bind_apply, look_apply, accepted, planned]
      rfl
    | ok p =>
      obtain ⟨r, n, played, -, -, left⟩ := run_scenario_played accepted planned
      have ran := played.commandLines rfl fun _ => rfl
      have quiet : commandLines (leaving n.fixture : List (Event Session)) = [] :=
        commandLines_quiet fun e mem => (leaving_quiet _ e mem).1
      rw [left, commandLines_append, ran, quiet, List.append_nil]
      simp only [ne_eq, given, not_false_eq_true, eq_true known, true_and]

end Command

namespace CommandLine

open Fixture Work

/-- Whatever words stand behind the two hyphens, they are what the command gets, and nothing else
depends on them. If the first of them does not look like an option, the hyphens can be left out. A
scenario runs exactly these words, in a directory that is given or known. -/
theorem tokens_verbatim {environment : Variables} {before after : List Mention} {v : Verb}
    (options : Admissible environment before v after) (takes : v.takesWords = true) :
    ∃ (l : CommandLine) (make : List String → Command), Makes v make ∧ ∀ tokens : List String,
      parse environment (prefixWords before v after ++ "--" :: tokens) =
        .ok { l with command := make tokens } ∧
      (∀ first others, tokens = first :: others → ¬ Hyphened first →
        parse environment (prefixWords before v after ++ tokens) =
          .ok { l with command := make tokens }) ∧
      ∀ target directory, make tokens = .scenario target directory tokens →
        ∀ (σ Session : Type) (S : Stage σ Session) (config : Config) (workingDirectory : String)
          (w : σ),
          let b : Bench (Chronicle σ Session) := { world := { world := w } }
          Command.commandLines
              ((make tokens).run S.watched config workingDirectory b).2.world.events =
            match Plan.ofConfig config workingDirectory with
            | .error _ => []
            | .ok p =>
              if tokens ≠ [] ∧ (directory = "" → (S.directoryFault w).isNone = true) ∧
                  (Command.openScenario p S.watched target b).1.isOk = true then [tokens]
              else [] := by
  obtain ⟨l, make, makes, passing⟩ := parse_passing options takes
  refine ⟨l, make, makes, fun tokens => ⟨?_, ?_, ?_⟩⟩
  · have parsed := passing (.escaped tokens) tokens trivial (words_of_takes takes tokens).1
    rwa [words_eq] at parsed
  · rintro first others rfl plain
    have parsed := passing (.words first others) (first :: others) (Scope.piece_eq_plain plain)
      ((words_of_takes takes others).2 first others)
    rwa [words_eq] at parsed
  · intro target directory scenario σ Session S config workingDirectory w
    rw [scenario]
    exact Command.commandLines_scenario S config workingDirectory target directory tokens w

/-- Options in front of the scenario and behind it. -/
theorem tokens_verbatim_api :
    let before : List Mention := [⟨.json, .alone⟩]
    let after : List Mention :=
      [⟨.api, .alone⟩, ⟨.setting .host, .joined "db"⟩, ⟨.workingDirectory, .apart "/w"⟩]
    Admissible (fun _ => none) before .scenario after ∧
      prefixWords before .scenario after =
        ["--json", "scenario", "--api", "--db-host=db", "--workdir", "/w"] ∧
      ∀ tokens, parse (fun _ => none) (prefixWords before .scenario after ++ "--" :: tokens) = .ok
        { log := { style := .json, threshold := .info }
          configFile := none
          overrides := { host := some "db" }
          command := .scenario .api "/w" tokens } := by
  intro before after
  have silent (typed : Given) (options : List OptionName) :
      VariablesReadable (fun _ => none) typed options := by
    intro o _ _ text stands
    simp [variableText] at stands
  have options : Admissible (fun _ => none) before .scenario after := by
    refine ⟨by decide +kernel, by decide +kernel, ⟨by decide, ?_, silent _ _⟩,
      ⟨by decide, ?_, silent _ _⟩, by decide⟩
    · exact List.forall_mem_singleton.mpr ⟨true, rfl⟩
    · exact List.forall_mem_cons.mpr ⟨⟨true, rfl⟩, List.forall_mem_cons.mpr ⟨⟨"db", rfl⟩,
        List.forall_mem_singleton.mpr ⟨"/w", rfl⟩⟩⟩
  refine ⟨options, by decide +kernel, fun tokens => ?_⟩
  obtain ⟨l, make, makes, all⟩ := tokens_verbatim options rfl
  have empty : parse (fun _ => none) (prefixWords before .scenario after ++ ["--"]) = .ok
      { log := { style := .json, threshold := .info }
        configFile := none
        overrides := { host := some "db" }
        command := .scenario .api "/w" [] } := eq_ok_of_toOption (by decide +kernel)
  have same := Except.ok.inj ((all []).1.symm.trans empty)
  obtain ⟨target, directory⟩ := makes
  simp only [CommandLine.mk.injEq, Command.scenario.injEq] at same
  obtain ⟨log, file, overrides, rfl, rfl, -⟩ := same
  rw [(all tokens).1, log, file, overrides]

end CommandLine

end Testbed
