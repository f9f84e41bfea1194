import Testbed.Proofs.Parts
import Testbed.Proofs.PlainWorld
import Testbed.Proofs.Website

/-!
# Variables that outlive their website

When a configuration is written, the old website is left first, and the variables change only when
the new website holds its dotenv file. If there is no new website, the old variables are still there,
and a script that is run then in the build directory works on the older database. After any other
failure a script works on the new one.
-/

namespace Testbed

/-- Whether a directory was made, which is to be a website. -/
def Event.isMove {Session : Type} : Event Session → Bool
  | madeDirectory _ (.ok _) => true
  | _ => false

namespace Fixture

open Work

variable {σ Session : Type} {p : Plan} {B : Backend σ Session}

/-- The variables point the application at the database, or none of them is set. -/
def PointsAtMost (p : Plan) (database : String) (environment : Dictionary) : Prop :=
  environment.get? AppEnv.dsnName = some (p.config.connection.dsn database) ∨
    ∀ name, "NOMINATIM_".toList <+: name.toList → environment.get? name = none

/-- Whether the website could not be made, or its dotenv file not be written. -/
def unmade : Except Failure Unit → Bool
  | .error (.websiteDirectory _) | .error (.dotenv _ _) => true
  | _ => false

theorem State.Configured.pointsAtMost_iff {s : State} (configured : s.Configured p)
    (database : String) :
    PointsAtMost p database s.childVariables ↔
      ∀ other, s.environment = some (p.variablesOf other) → other = database := by
  unfold State.childVariables
  cases written : s.environment with
  | none =>
    refine ⟨fun _ => nofun, fun _ => .inr fun name _ => ?_⟩
    simp [Dictionary.get?, Dictionary.empty]
  | some environment =>
    obtain ⟨current, rfl⟩ := configured environment written
    have dsn : (p.variablesOf current).get? AppEnv.dsnName =
        some (p.config.connection.dsn current) := AppEnv.get?_dsnName _ _
    simp only [Option.getD_some, Option.some.injEq]
    constructor
    · rintro (same | none) other equal
      · rw [dsn, Option.some.injEq] at same
        exact (Plan.variablesOf_injective equal).symm.trans (p.config.connection.dsn_injective same)
      · cases dsn.symm.trans (none AppEnv.dsnName (by decide))
    · intro only
      obtain rfl := only current rfl
      exact .inl dsn

/-- The variables change only with the website. -/
theorem Step.environment {b b' : Bench σ} {es : List (Event Session)} (h : Step p B b es b')
    (still : ∀ e ∈ es, e.isMove = false) : b'.fixture.environment = b.fixture.environment := by
  cases h with
  | settled => simp [Event.isMove] at still
  | _ => rfl

theorem Course.environment {b b' : Bench σ} {es : List (Event Session)} (h : Course p B b es b')
    (still : ∀ e ∈ es, e.isMove = false) : b'.fixture.environment = b.fixture.environment := by
  induction h with
  | nil => rfl
  | cons step _ ih =>
    obtain ⟨first, rest⟩ := List.forall_mem_append.mp still
    exact (ih rest).trans (step.environment first)

section Written

variable {database : String} {b b' : Bench (Chronicle σ Session)} {r : Except Failure Unit}

theorem Written.environment_unmade (h : Written p B database b r b') (none : unmade r = true) :
    b'.fixture.environment = b.fixture.environment := by
  cases h with
  | unchanged | setUp => cases none
  | notSetUp _ _ _ _ ran => cases ran <;> cases none
  | noDirectory _ state | noDotenv _ state => rw [state]; rfl

theorem Written.environment_made (h : Written p B database b r b')
    (configured : b.fixture.Configured p) (made : unmade r = false) :
    b'.fixture.environment = some (p.variablesOf database) := by
  cases h with
  | unchanged same => exact ((State.pointsAt_iff configured database).mp same).2
  | noDirectory | noDotenv => cases made
  | notSetUp _ state | setUp _ state => rw [state]; rfl

end Written

/-- A script that is run after a configuration was written, with or without success, and before
another website is made, works on that database or on none, unless the website could not be made and
another database was configured before. In that case it works on the older database. -/
theorem script_after_writeConfig (earlier later : List (Operation Session)) (w : σ)
    (database : String) :
    let b := (Operation.run p B.watched earlier { world := { world := w } }).2
    let out := writeConfig p B.watched database b
    ∀ before i answer after, (Operation.run p B.watched later out.2).2.world.events =
        out.2.world.events ++ (before ++ .ranScript i answer :: after) →
      (∀ e ∈ before, e.isMove = false) →
      (unmade out.1 = true → i.environment = b.fixture.childVariables) ∧
      (unmade out.1 = false → i.environment = p.variablesOf database) ∧
      (PointsAtMost p database i.environment ↔
        ¬ (unmade out.1 = true ∧ ∃ other, other ≠ database ∧
          b.fixture.environment = some (p.variablesOf other))) := by
  intro b out before i answer after noted still
  have configured : b.fixture.Configured p := by
    obtain ⟨_, course, -⟩ := run_course (p := p) (B := B) earlier { world := { world := w } }
    exact course.configured nofun
  have written : Written p B database b out.1 out.2 := writeConfig_written database b
  obtain ⟨es, course, noted'⟩ := run_course (p := p) (B := B) later out.2
  obtain rfl := List.append_cancel_left (noted.symm.trans noted')
  obtain ⟨m, _, first, -, environment, -⟩ := course.script
  have kept : i.environment = out.2.fixture.childVariables := by
    rw [environment, State.childVariables, first.environment still, State.childVariables]
  have inherited (h : unmade out.1 = true) : i.environment = b.fixture.childVariables := by
    rw [kept, State.childVariables, written.environment_unmade h, State.childVariables]
  have renewed (h : unmade out.1 = false) : i.environment = p.variablesOf database := by
    rw [kept, State.childVariables, written.environment_made configured h, Option.getD_some]
  refine ⟨inherited, renewed, ?_⟩
  cases h : unmade out.1 with
  | true =>
    rw [inherited h, configured.pointsAtMost_iff database]
    constructor
    · rintro only ⟨-, other, different, current⟩
      exact different (only other current)
    · intro never other current
      by_cases same : other = database
      · exact same
      · exact absurd ⟨rfl, other, same, current⟩ never
  | false =>
    have dsn : PointsAtMost p database i.environment :=
      .inl (renewed h ▸ AppEnv.get?_dsnName _ _)
    exact iff_of_true dsn fun both => Bool.false_ne_true both.1

theorem environment_of_writeConfig {database : String} {b : Bench (Chronicle σ Session)}
    (configured : b.fixture.Configured p)
    (made : unmade (writeConfig p B.watched database b).1 = false) :
    (Operation.run p B.watched [.writeConfig database] b).2.fixture.environment =
      some (p.variablesOf database) := by
  have written : (writeConfig p B.watched database).Gives b (Written p B database b) :=
    writeConfig_written database b
  rw [Operation.run_cons, Operation.run_nil, Operation.perform, bind_pure_snd]
  exact Written.environment_made written configured made

theorem run_runScript_watched {b : Bench (Chronicle σ Session)}
    (found : p.lost? B.watched b.world = none) (script : Script.Name) (args : Script.Arguments) :
    ∃ answer, (Operation.run p B.watched [.runScript script args] b).2.world.events =
      b.world.events ++ [.ranScript (p.invocation b.fixture script args) answer] := by
  rw [Operation.run_cons, Operation.run_nil, Operation.perform, bind_pure_snd,
    runScript_apply found]
  exact ⟨_, rfl⟩

/-- The second website cannot be made, and an update works on the first database. -/
theorem script_after_writeConfig_unmade :
    let plan := PlainWorld.plan
    let B := PlainWorld.backend.watched
    let start : Bench (Chronicle PlainWorld String) :=
      { world := { world := { troubles := [false, false, false, true] } } }
    let b := (Operation.run plan B [.writeConfig "first"] start).2
    let out := writeConfig plan B "second" b
    ∃ i answer, (Operation.run plan B [.runScript .update {}] out.2).2.world.events =
        out.2.world.events ++ [.ranScript i answer] ∧
      i.environment = plan.variablesOf "first" ∧ ¬ PointsAtMost plan "second" i.environment := by
  -- the world stays abstract here, or its run would be evaluated at every step
  have inherits (w : PlainWorld) :
      let b := (Operation.run PlainWorld.plan PlainWorld.backend.watched [.writeConfig "first"]
        { world := { world := w } }).2
      let out := writeConfig PlainWorld.plan PlainWorld.backend.watched "second" b
      b.fixture.environment = some (PlainWorld.plan.variablesOf "first") → unmade out.1 = true →
      ∃ i answer, (Operation.run PlainWorld.plan PlainWorld.backend.watched
          [.runScript .update {}] out.2).2.world.events =
            out.2.world.events ++ [.ranScript i answer] ∧
        i.environment = PlainWorld.plan.variablesOf "first" ∧
          ¬ PointsAtMost PlainWorld.plan "second" i.environment := by
    intro b out older failed
    obtain ⟨answer, noted⟩ := run_runScript_watched (p := PlainWorld.plan)
      (B := PlainWorld.backend) (b := out.2) (if_pos (by decide)) .update {}
    obtain ⟨inherited, -, promised⟩ := script_after_writeConfig [.writeConfig "first"]
      [.runScript .update {}] w "second" [] (PlainWorld.plan.invocation out.2.fixture .update {})
      answer [] noted nofun
    have environment : (PlainWorld.plan.invocation out.2.fixture .update {}).environment =
        PlainWorld.plan.variablesOf "first" := by
      rw [inherited failed, State.childVariables, older, Option.getD_some]
    refine ⟨_, answer, noted, environment, fun points => ?_⟩
    exact promised.mp points ⟨failed, "first", by decide, older⟩
  exact inherits { troubles := [false, false, false, true] }
    (environment_of_writeConfig nofun (by decide +kernel)) (by decide +kernel)

end Fixture

end Testbed
