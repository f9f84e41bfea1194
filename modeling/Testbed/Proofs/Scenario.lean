import Testbed.Command
import Testbed.Proofs.PlainWorld
import Testbed.Proofs.Website

/-!
# The course of a scenario

A scenario is prepared, its command is run once, and the fresh database is removed. The removal
takes place whatever came of the command, and only then is the website left.
-/

namespace Testbed.Command

open Fixture Work

variable {σ Session : Type} {p : Plan} {S : Stage σ Session} {target : Target}
  {b : Bench (Chronicle σ Session)}

def coverageFile (p : Plan) (B : Backend σ Session) (b : Bench σ) : Option String :=
  p.config.coverageDirectory.map fun directory =>
    coveragePath (p.directory (B.directoryFault b.world)) directory b.fixture.coverageNumber

def scenarioVariables (p : Plan) (B : Backend σ Session) (b : Bench σ) : Dictionary :=
  match coverageFile p B b with
  | some file => b.fixture.childVariables.put coverageName file
  | none => b.fixture.childVariables

/-- What a command comes to. Only an exit with the code zero is a success. -/
def verdict : Except Failure Job.Status → Except Failure Unit
  | .error e => .error e
  | .ok status => match status.failure? with
    | some how => .error (.scenarioEnded how)
    | none => .ok ()

def removing (p : Plan) : Option Session → Except Failure Unit → List (Event Session)
  | none, _ => []
  | some session, answer =>
    .closed session ::
      if p.config.keepTestDatabase then [] else [.dropped p.config.testDatabase answer]

def removalFailed (e : Failure) : Log.Record :=
  Log.error "scenario teardown failed" [("error", e.message)]

/-- The ways in which a scenario ends. -/
inductive Played (p : Plan) (S : Stage σ Session) (target : Target)
    (i : Bench (Chronicle σ Session) → Script.Invocation) (b : Bench (Chronicle σ Session)) :
    Except Failure Unit → Bench (Chronicle σ Session) → Prop
  | unprepared {e m} (prepared : openScenario p S.watched target b = (.error e, m)) :
      Played p S target i b (.error e) m
  | played {session m outcome removal b'}
      (prepared : openScenario p S.watched target b = (.ok session, m))
      (website : b'.fixture.website = m.fixture.website)
      (events : b'.world.events =
        m.world.events ++ .ranCommand (i m) outcome :: removing p session removal)
      (sure : session = none ∨ p.config.keepTestDatabase = true → removal = .ok ())
      (told : ∀ e second, verdict outcome = .error e → removal = .error second →
        removalFailed second ∈ b'.log) :
      Played p S target i b ((verdict outcome).bind fun _ => removal) b'

theorem nextCoverageFile_gives {σ : Type} (B : Backend σ Session) (b : Bench σ) :
    (nextCoverageFile p B).Gives b fun r b' => r = .ok (coverageFile p B b) ∧
      b'.fixture.website = b.fixture.website ∧ b'.world = b.world := by
  unfold nextCoverageFile coverageFile
  cases p.config.coverageDirectory <;> exact ⟨rfl, rfl, rfl⟩

theorem play_watched (command : List String) (directory : String) (environment : Dictionary) :
    (play S.watched command directory environment).Gives b fun r b' =>
      b'.fixture = b.fixture ∧ ∃ outcome, r = verdict outcome ∧ b'.world.events =
        b.world.events ++ [.ranCommand ⟨command, directory, environment⟩ outcome] := by
  unfold play
  rw [gives_tell_bind]
  refine Gives.bind (P := fun r m => m.fixture = b.fixture ∧ m.world.events =
    b.world.events ++ [.ranCommand ⟨command, directory, environment⟩ r]) ⟨rfl, rfl⟩ ?_ ?_
  · rintro status m ⟨state, events⟩
    cases ended : status.failure? with
    | none => exact ⟨state, .ok status, by simp [verdict, ended], events⟩
    | some how => exact ⟨state, .ok status, by simp [verdict, ended], events⟩
  · rintro e m ⟨state, events⟩
    exact ⟨state, .error e, rfl, events⟩

theorem closeScenario_watched (session : Option Session) :
    (closeScenario p S.watched session).Gives b fun r b' =>
      b'.fixture = b.fixture ∧ b'.world.events = b.world.events ++ removing p session r ∧
        (session = none ∨ p.config.keepTestDatabase = true → r = .ok ()) := by
  cases session with
  | none => exact ⟨rfl, (List.append_nil _).symm, fun _ => rfl⟩
  | some session =>
    unfold closeScenario teardown
    refine Gives.bind (P := fun r m => r = .ok () ∧ m.fixture = b.fixture ∧
      m.world.events = b.world.events ++ [.closed session]) ⟨rfl, rfl, rfl⟩ ?_
      (by rintro e m ⟨impossible, -⟩; cases impossible)
    rintro ⟨⟩ m ⟨-, state, events⟩
    cases keep : p.config.keepTestDatabase with
    | true => exact ⟨state, by simpa [removing, keep] using events, fun _ => rfl⟩
    | false =>
      refine Gives.mono (P := fun r n => n.fixture = m.fixture ∧ n.world.events =
        m.world.events ++ [.dropped p.config.testDatabase r]) ⟨rfl, rfl⟩ ?_
      rintro r n ⟨state', events'⟩
      exact ⟨state'.trans state, by simp [events', events, removing, keep], by simp⟩

theorem playScenario_played (directory : String) (command : List String) :
    (playScenario p S.watched target directory command).Gives b
      (Played p S target
        (fun m => ⟨command, directory, scenarioVariables p S.watched.toBackend m⟩) b) := by
  refine Gives.bind (P := fun r m => openScenario p S.watched target b = (r, m)) rfl ?_
    fun e m prepared => .unprepared prepared
  intro session m prepared
  rw [gives_fixture_bind]
  refine (nextCoverageFile_gives S.watched.toBackend m).bind ?_
    (by rintro e n ⟨impossible, -⟩; cases impossible)
  rintro _ n ⟨⟨⟩, website, world⟩
  rw [gives_attempt_bind]
  refine Gives.mono (play_watched command directory _) ?_
  rintro _ n' ⟨state, outcome, rfl, events⟩
  rw [gives_attempt_bind]
  refine (closeScenario_watched session).mono ?_
  rintro removal n'' ⟨state', events', sure⟩
  have ended {log : List Log.Record} (told : ∀ e second, verdict outcome = .error e →
      removal = .error second → removalFailed second ∈ log) :
      Played p S target (fun m => ⟨command, directory, scenarioVariables p S.watched.toBackend m⟩) b
        ((verdict outcome).bind fun _ => removal) { n'' with log } := by
    refine .played prepared ?_ ?_ sure told
    · rw [state', state, website]
    · rw [events', events, world, List.append_assoc, List.singleton_append]
      rfl
  generalize verdict outcome = result at ended ⊢
  rcases result with e | ⟨⟩ <;> rcases removal with second | ⟨⟩
  · exact ended fun _ _ _ same => by simp [← Except.error.inj same, removalFailed]
  all_goals exact ended nofun

theorem openScenario_session {b m : Bench σ} {session : Option Session}
    (h : openScenario p S target b = (.ok session, m)) :
    session.isSome = true ↔ target = .test := by
  unfold openScenario at h
  split at h
  · rw [bind_apply] at h
    split at h <;> cases h
    simp
  · rename_i other
    rw [bind_apply] at h
    split at h <;> cases h
    simpa using other

def Prepares (p : Plan) : Target → Event Session → Prop
  | .test, e => Preparing p e ∨ Copying p e
  | _, e => Settling p e

theorem prepares_quiet (other : target ≠ .test) {e : Event Session} (h : Prepares p target e) :
    e.isDatabase = false := by
  have settling : Settling p e := by
    cases target with
    | test => exact absurd rfl other
    | api | unknown | named => exact h
  exact settling_isDatabase settling

theorem follows_openScenario (target : Target) :
    Follows p S.toBackend (Prepares p target) (openScenario p S target) := by
  have closed := closed_follows p S.toBackend (Prepares p target)
  have aim {work : Work σ Unit} (h : Follows p S.toBackend (Prepares p target) work) :
      Follows p S.toBackend (Prepares p target) (do
        work
        return (none : Option Session)) := closed.bind h fun _ => closed.pure none
  cases target with
  | test => exact closed.bind follows_setupDatabase fun session => closed.pure (some session)
  | api | unknown | named => exact aim (follows_writeConfig _)

theorem scenarioVariables_get? (p : Plan) (B : Backend σ Session) (b : Bench σ) (name : String) :
    (scenarioVariables p B b).get? name =
      ((if name = coverageName then coverageFile p B b else none) <|>
        b.fixture.childVariables.get? name) := by
  unfold scenarioVariables
  cases coverageFile p B b with
  | none => simp
  | some file =>
    rw [Dictionary.get?_put]
    by_cases same : coverageName = name
    · simp [same]
    · simp [same, Ne.symm same]

theorem verdict_ok_iff {outcome : Except Failure Job.Status} :
    verdict outcome = .ok () ↔ ∃ status, outcome = .ok status ∧ status.word = 0 := by
  cases outcome with
  | error e => simp [verdict]
  | ok status =>
    have judged : status.failure? = none ↔ status.word = 0 := by
      unfold Job.Status.failure? Job.Status.succeeded
      split
      · rename_i zero
        exact ⟨fun _ => of_decide_eq_true zero, fun _ => rfl⟩
      · rename_i other
        refine ⟨fun none => ?_, fun zero => absurd (decide_eq_true zero) other⟩
        split at none <;> cases none
    have succeeded : verdict (.ok status) = .ok () ↔ status.failure? = none := by
      simp only [verdict]
      cases status.failure? <;> simp
    simp [succeeded, judged]

/-- How the command of a scenario is started at a bench. A scenario without a directory takes
place in the working directory. -/
def scenarioRun (p : Plan) (B : Backend σ Session) (directory : String) (command : List String)
    (b : Bench σ) : Script.Invocation where
  command := command
  directory := if directory.isEmpty then p.workingDirectory else directory
  environment := scenarioVariables p B b

/-- All that happens to a scenario on a bench without a past. -/
structure Lifecycle (p : Plan) (S : Stage σ Session) (target : Target)
    (i : Bench (Chronicle σ Session) → Script.Invocation) (b : Bench (Chronicle σ Session))
    (r : Except Failure String) (b' : Bench (Chronicle σ Session)) : Prop where
  /-- What cannot be prepared is not started. -/
  unprepared : ∀ e m, openScenario p S.watched target b = (.error e, m) →
    r = .error e ∧ ∀ event ∈ b'.world.events, event.command? = none
  /-- After the one start the session is closed and its database dropped, come what may. -/
  prepared : ∀ session m, openScenario p S.watched target b = (.ok session, m) →
    (session.isSome = true ↔ target = .test) ∧
    (∀ event ∈ m.world.events, event.command? = none) ∧
    (∀ name, (i m).environment.get? name =
      ((if name = coverageName then coverageFile p S.watched.toBackend m else none) <|>
        m.fixture.childVariables.get? name)) ∧
    ∃ outcome removal,
      b'.world.events = m.world.events ++
        .ranCommand (i m) outcome :: (removing p session removal ++ leaving m.fixture) ∧
      (session = none ∨ p.config.keepTestDatabase = true → removal = .ok ()) ∧
      (r = .ok "" ↔ (∃ status, outcome = .ok status ∧ status.word = 0) ∧ removal = .ok ()) ∧
      (∀ e, verdict outcome = .error e → r = .error e) ∧
      (∀ e, verdict outcome = .ok () → removal = .error e → r = .error e) ∧
      ∀ e second, verdict outcome = .error e → removal = .error second →
        removalFailed second ∈ b'.log
  /-- Only a fresh database needs the server. -/
  aside : target ≠ .test → ∀ event ∈ b'.world.events, event.isDatabase = false

/-- No command is run while a scenario is prepared, and a server is only asked for a fresh
database. -/
theorem openScenario_quiet {r : Except Failure (Option Session)}
    {m : Bench (Chronicle σ Session)} (fresh : b.world.events = [])
    (prepared : openScenario p S.watched target b = (r, m)) :
    (∀ event ∈ m.world.events, event.command? = none) ∧
      (target ≠ .test → ∀ event ∈ m.world.events, event.isDatabase = false) := by
  have opened := (follows_openScenario (p := p) (S := S.watched) target).watched b
  unfold Gives at opened
  rw [prepared] at opened
  obtain ⟨es, -, chain, noted, asked⟩ := opened
  rw [fresh, List.nil_append] at noted
  rw [noted]
  exact ⟨chain.no_command, fun other event h => prepares_quiet other (asked event h)⟩

theorem leaving_quiet (s : State) : ∀ event ∈ (leaving s : List (Event Session)),
    event.command? = none ∧ event.isDatabase = false := by
  unfold leaving
  cases s.website <;> simp [Event.command?, Event.isDatabase]

theorem Played.lifecycle {i : Bench (Chronicle σ Session) → Script.Invocation}
    {r : Except Failure Unit} {n b' : Bench (Chronicle σ Session)} (played : Played p S target i b r n)
    (fresh : b.world.events = [])
    (dictionary : ∀ m, (i m).environment = scenarioVariables p S.watched.toBackend m)
    (log : b'.log = n.log) (left : b'.world.events = n.world.events ++ leaving n.fixture) :
    Lifecycle p S target i b (r.map fun _ => "") b' := by
  cases played with
  | @unprepared e m prepared =>
    obtain ⟨silent, aside⟩ := openScenario_quiet fresh prepared
    refine ⟨?_, ?_, ?_⟩
    · intro e' m' prepared'
      obtain ⟨⟨⟩, ⟨⟩⟩ := Prod.mk.inj (prepared.symm.trans prepared')
      refine ⟨rfl, ?_⟩
      rw [left]
      exact List.forall_mem_append.mpr ⟨silent, fun event h => (leaving_quiet _ event h).1⟩
    · intro session m' prepared'
      cases prepared.symm.trans prepared'
    · intro other
      rw [left]
      exact List.forall_mem_append.mpr ⟨aside other, fun event h => (leaving_quiet _ event h).2⟩
  | @played session m outcome removal _ prepared website events sure told =>
    obtain ⟨silent, aside⟩ := openScenario_quiet fresh prepared
    have session_iff := openScenario_session prepared
    have all : b'.world.events = m.world.events ++
        .ranCommand (i m) outcome :: (removing p session removal ++ leaving m.fixture) := by
      rw [left, events, leaving, leaving, website]
      simp
    refine ⟨?_, ?_, ?_⟩
    · intro e m' prepared'
      cases prepared.symm.trans prepared'
    · intro session' m' prepared'
      obtain ⟨⟨⟩, ⟨⟩⟩ := Prod.mk.inj (prepared.symm.trans prepared')
      refine ⟨session_iff, silent, fun name => ?_, outcome, removal, all, sure,
        ?_, ?_, ?_, fun e second h h' => log ▸ told e second h h'⟩
      · rw [dictionary, scenarioVariables_get?]
      · rw [← verdict_ok_iff]
        rcases verdict outcome with e | ⟨⟩ <;> rcases removal with e | ⟨⟩ <;>
          simp [Except.map, Except.bind]
      · intro e failed
        rw [failed]
        rfl
      · rintro e succeeded rfl
        rw [succeeded]
        rfl
    · intro other
      have none : session = none := by
        cases session with
        | none => rfl
        | some s => exact absurd (session_iff.mp rfl) other
      rw [all, none]
      refine List.forall_mem_append.mpr ⟨aside other, ?_⟩
      exact List.forall_mem_cons.mpr ⟨rfl, fun event h => (leaving_quiet _ event h).2⟩

/-- A scenario with a command is refused only for its working directory. -/
theorem refusal?_scenario (S : Stage σ Session) (target : Target) (directory : String)
    {command : List String} (given : command ≠ []) (w : σ) :
    (Command.scenario target directory command).refusal? S w =
      if directory.isEmpty then (S.directoryFault w).map .noWorkingDirectory else none := by
  cases command with
  | nil => exact absurd rfl given
  | cons => rfl

theorem refusal?_scenario_eq_none_iff (S : Stage σ Session) (target : Target) (directory : String)
    (command : List String) (w : σ) :
    (Command.scenario target directory command).refusal? S w = none ↔
      command ≠ [] ∧ (directory = "" → (S.directoryFault w).isNone = true) := by
  by_cases given : command = []
  · subst given
    exact ⟨nofun, fun ⟨given, _⟩ => absurd rfl given⟩
  · rw [refusal?_scenario S target directory given, ite_eq_right_iff, Option.map_eq_none_iff,
      String.isEmpty_iff, Option.isNone_iff_eq_none]
    exact (and_iff_right given).symm

/-- A scenario that is not refused is played, and then its website is left. -/
theorem run_scenario_played {config : Config} {workingDirectory directory : String}
    {command : List String}
    (accepted : (Command.scenario target directory command).refusal? S.watched b.world = none)
    (planned : Plan.ofConfig config workingDirectory = .ok p) :
    (run S.watched config workingDirectory (.scenario target directory command)).Gives b
      fun r b' => ∃ r' n,
        Played p S target (scenarioRun p S.watched.toBackend directory command) b r' n ∧
        r = r'.map (fun _ => "") ∧ b'.log = n.log ∧
        b'.world.events = n.world.events ++ leaving n.fixture := by
  have played : (playScenario p S.watched target
      (if directory.isEmpty then p.workingDirectory else directory) command).Gives b _ :=
    playScenario_played _ command
  have ran : run S.watched config workingDirectory (.scenario target directory command) b =
      finally_ (perform p S.watched (.scenario target directory command))
        (leaveWebsite S.watched.toBackend) b := by
    rw [run, bind_apply, look_apply, accepted, planned]
    rfl
  unfold Gives at *
  rw [ran, finally_apply, perform, bind_apply]
  generalize playScenario p S.watched target _ command b = out at played ⊢
  obtain ⟨r, n⟩ := out
  have log : (leaveWebsite S.watched.toBackend n).2.log = n.log := by
    rw [leaveWebsite_apply]
    cases n.fixture.website <;> rfl
  have left : (leaveWebsite S.watched.toBackend).Gives n fun _ n' => _ :=
    (leaveWebsite_watched n).mono fun _ _ h => h.2.2.1
  refine ⟨r, n, played, ?_⟩
  rcases r with e | ⟨⟩ <;> exact ⟨rfl, log, left⟩

/-- Whatever the server, the scripts and the command do, a scenario runs its whole course. Only one
that takes place in a working directory that is not known is not begun. -/
theorem scenario_lifecycle (S : Stage σ Session) (config : Config) (workingDirectory : String)
    (target : Target) (directory : String) {command : List String} (given : command ≠ []) (w : σ) :
    let b : Bench (Chronicle σ Session) := { world := { world := w } }
    (run S.watched config workingDirectory (.scenario target directory command)).Gives b
      fun r b' =>
        match if directory.isEmpty then S.directoryFault w else none,
            Plan.ofConfig config workingDirectory with
        | some reason, _ => r = .error (.noWorkingDirectory reason) ∧ b' = b
        | none, .error e => r = .error e ∧ b' = b
        | none, .ok p =>
          Lifecycle p S target (scenarioRun p S.watched.toBackend directory command) b r b' := by
  intro b
  have reading : (Command.scenario target directory command).refusal? S.watched b.world =
      (if directory.isEmpty then S.directoryFault w else none).map .noWorkingDirectory := by
    rw [refusal?_scenario S.watched target directory given]
    split <;> rfl
  unfold Gives
  cases unknown : if directory.isEmpty then S.directoryFault w else none with
  | some reason =>
    rw [unknown] at reading
    rw [run, bind_apply, look_apply, reading]
    exact ⟨rfl, rfl⟩
  | none =>
    rw [unknown] at reading
    cases planned : Plan.ofConfig config workingDirectory with
    | error e =>
      rw [run, bind_apply, look_apply, reading, planned]
      exact ⟨rfl, rfl⟩
    | ok p =>
      obtain ⟨r, n, played, result, log, left⟩ := run_scenario_played reading planned
      rw [result]
      exact played.lifecycle rfl (fun _ => rfl) log left

/-- The command fails, and so does the drop after it. -/
theorem scenario_lifecycle_two_failures :
    let b : Bench (Chronicle PlainWorld String) := { world := { world :=
      { databases := ["tmpl"], troubles := List.replicate 7 false ++ [true, true] } } }
    let out :=
      run PlainWorld.stage.watched PlainWorld.plan.config "/" (.scenario .test "" ["true"]) b
    ["true"] ≠ [] ∧ out.1.isOk = false ∧ removalFailed (.told "no server") ∈ out.2.log ∧
      Lifecycle PlainWorld.plan PlainWorld.stage .test
        (scenarioRun PlainWorld.plan PlainWorld.stage.watched.toBackend "" ["true"]) b
        out.1 out.2 := by
  refine ⟨by decide, by decide +kernel, by decide +kernel, ?_⟩
  have lifecycle := @scenario_lifecycle PlainWorld String PlainWorld.stage PlainWorld.plan.config
    "/" .test "" ["true"] (by decide)
    { databases := ["tmpl"], troubles := List.replicate 7 false ++ [true, true] }
  rw [PlainWorld.planned] at lifecycle
  exact lifecycle

end Testbed.Command
