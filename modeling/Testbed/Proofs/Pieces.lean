import Testbed.Command
import Testbed.Proofs.Operation

/-!
# Commands piece by piece

What holds of the pieces of a command holds of the command, if it is closed under putting work
together. A piece only has to be looked at for the commands that have it.
-/

namespace Testbed.Command

open Fixture Work

/-- A scenario once it was opened: its program is run, and the fresh database removed. -/
def afterOpening {σ Session : Type} (p : Plan) (S : Stage σ Session) (directory : String)
    (command : List String) (session : Option Session) : Work σ Unit := do
  let inherited := (← fixture).childVariables
  let environment := match ← nextCoverageFile p S.toBackend with
    | some file => inherited.put coverageName file
    | none => inherited
  let outcome ← attempt (play S command directory environment)
  match outcome, ← attempt (closeScenario p S session) with
  | .ok (), .ok () => tell (Log.info "scenario completed successfully" [])
  | .ok (), .error e => throw e
  | .error e, .ok () => throw e
  | .error e, .error second =>
    tell (Log.error "scenario teardown failed" [("error", second.message)])
    throw e

theorem playScenario_eq {σ Session : Type} (p : Plan) (S : Stage σ Session) (target : Target)
    (directory : String) (command : List String) : playScenario p S target directory command =
      openScenario p S target >>= afterOpening p S directory command :=
  rfl

/-- Apart from a fresh database there is nothing to remove. -/
theorem openScenario_eq {σ Session : Type} (p : Plan) (S : Stage σ Session) {target : Target}
    (other : target ≠ .test) : openScenario p S target = (do
      aim p S target
      return none) := by
  cases target with
  | test => exact absurd rfl other
  | api | unknown | named => rfl

section Pieces

variable {σ Session : Type} {C : {α : Type} → Work σ α → Prop} {p : Plan} {S : Stage σ Session}
  {target : Target} {directory : String} {command : List String} {c : Command}

theorem closed_aim (write : ∀ database, C (Fixture.writeConfig p S.toBackend database))
    (target : Target) : C (aim p S target) := by
  cases target with
  | test | api | unknown | named => exact write _

variable (closed : Closed C)

include closed

theorem closed_showConfig (aimed : C (aim p S target)) : C (showConfig p S target) := by
  refine closed.bind aimed fun _ => closed.bind closed.fixture fun s => ?_
  cases s.website with
  | none => exact closed.bind closed.fixture fun _ => closed.pure _
  | some path =>
    exact closed.bind (closed.tell (by decide)) fun _ =>
      closed.bind closed.fixture fun _ => closed.pure _

/-- Words that are no arguments are given up at once. -/
theorem closed_useScript {script : Script.Name} {tokens : List String}
    (aimed : C (aim p S target))
    (ran : ∀ args, Script.Arguments.ofTokens tokens = .ok args →
      C (Fixture.runScript p S.toBackend script args)) :
    C (useScript p S script target tokens) := by
  unfold useScript
  cases read : Script.Arguments.ofTokens tokens with
  | error fault => exact closed.throw (.token fault)
  | ok args =>
    have told : C (tell (Log.info "script completed successfully" [])) := closed.tell (by decide)
    have whole := closed.bind aimed fun _ => closed.bind (ran args read) fun _ => told
    exact whole

theorem closed_play {environment : Dictionary}
    (start : C (running (S.runCommand ⟨command, directory, environment⟩))) :
    C (play S command directory environment) := by
  refine closed.bind (closed.tell (by decide)) fun _ => closed.bind start fun status => ?_
  split
  · exact closed.throw _
  · exact closed.pure ()

theorem closed_afterOpening {session : Option Session} (number : C (nextCoverageFile p S.toBackend))
    (played : ∀ environment, C (play S command directory environment))
    (close : C (closeScenario p S session)) : C (afterOpening p S directory command session) := by
  refine closed.bind closed.fixture fun s => closed.bind number fun file => ?_
  refine closed.bind (closed.attempt (played _)) fun outcome => ?_
  refine closed.bind (closed.attempt close) fun removal => ?_
  cases outcome with
  | ok _ => cases removal with
    | ok _ => exact closed.tell (by decide)
    | error e => exact closed.throw e
  | error e => cases removal with
    | ok _ => exact closed.throw e
    | error second => exact closed.bind (closed.tell (by decide)) fun _ => closed.throw e

theorem closed_playScenario (aimed : C (aim p S target))
    (fresh : target = .test → C (Fixture.setupDatabase p S.toBackend))
    (clear : target = .test → ∀ session, C (teardown p S.toBackend (some session)))
    (number : C (nextCoverageFile p S.toBackend))
    (played : ∀ environment, C (play S command directory environment)) :
    C (playScenario p S target directory command) := by
  rw [playScenario_eq]
  by_cases test : target = .test
  · subst test
    have opened : C (openScenario p S .test) :=
      closed.bind (fresh rfl) fun session => closed.pure (some session)
    refine closed.bind opened fun session => closed_afterOpening closed number played ?_
    cases session with
    | none => exact closed.pure ()
    | some s => exact clear rfl s
  · rw [openScenario_eq p S test, bind_assoc]
    simp only [pure_bind]
    exact closed.bind aimed fun _ => closed_afterOpening closed number played (closed.pure ())

def MakesDatabase : Command → Prop
  | .setupDatabase | .scenario .test _ _ => True
  | _ => False

theorem closed_perform (write : ∀ database, C (Fixture.writeConfig p S.toBackend database))
    (template : c = .setupTemplate → C (Fixture.setupTemplate p S.toBackend))
    (fresh : c.MakesDatabase → C (Fixture.setupDatabase p S.toBackend))
    (leave : ∀ session, C (change (S.closeSession session)))
    (clear : c = .teardownDatabase → C (teardown p S.toBackend none))
    (remove : ∀ directory command, c = .scenario .test directory command →
      ∀ session, C (teardown p S.toBackend (some session)))
    (drop : ∀ name, c = .dropDatabase name → C (act (S.dropDatabase name)))
    (script : ∀ script target tokens args, c = .runScript script target tokens →
      Script.Arguments.ofTokens tokens = .ok args → C (Fixture.runScript p S.toBackend script args))
    (number : C (nextCoverageFile p S.toBackend))
    (played : ∀ target directory command, c = .scenario target directory command →
      ∀ place environment, C (play S command place environment)) : C (c.perform p S) := by
  cases c with
  | setupTemplate => exact closed.bind (template rfl) fun _ => closed.pure _
  | setupDatabase =>
    have prepared : C (prepareDatabase p S) := closed.bind (fresh trivial) fun session =>
      closed.bind (leave session) fun _ => closed.tell (by decide)
    exact closed.bind prepared fun _ => closed.pure _
  | teardownDatabase => exact closed.bind (clear rfl) fun _ => closed.pure _
  | dropDatabase name =>
    exact closed.bind (closed_dropDatabase closed (drop name rfl)) fun _ => closed.pure _
  | writeConfig target => exact closed_showConfig closed (closed_aim write target)
  | runScript name target tokens =>
    refine closed.bind (closed_useScript closed (closed_aim write target) ?_) fun _ =>
      closed.pure _
    exact fun args read => script name target tokens args rfl read
  | scenario target directory command =>
    refine closed.bind (closed_playScenario closed (closed_aim write target) ?_ ?_ number
      (played target directory command rfl _)) fun _ => closed.pure _
    · rintro rfl
      exact fresh trivial
    · rintro rfl
      exact remove directory command rfl

/-- What is refused does nothing. -/
theorem closed_run {config : Config} {workingDirectory : String}
    (planned : Plan.ofConfig config workingDirectory = .ok p) (performed : C (c.perform p S))
    (left : C (leaveWebsite S.toBackend)) : C (Command.run S config workingDirectory c) := by
  unfold run
  refine closed.bind (closed.look _) fun refusal => ?_
  cases refusal with
  | some e => exact closed.throw e
  | none =>
    rw [planned]
    exact closed.finally_ performed left

end Pieces

end Testbed.Command
