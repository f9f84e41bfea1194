import Testbed.Proofs.Atomicity
import Testbed.Proofs.Bystanders

/-!
# The prebuilt database

Some tests use a database that was built beforehand, and nobody is to make it again. A
configuration that is accepted has different names for the template and the scenario database, but
the prebuilt one may share its name with either. If it has a name of its own, the server is never
asked about it, and the scripts of the fixture work elsewhere. If it has not, it is dropped together
with its namesake.
-/

namespace Testbed

/-- Either everything works, and all databases are there, or none is there, and nothing works but
looking for a database and dropping it. -/
def Backend.steady (works : Bool) : Backend Unit Unit where
  directoryFault _ := none
  databaseExists _ _ := (.ok works, ())
  dropDatabase _ _ := (.ok (), ())
  createDatabase _ _ _ := (answer (.told "no server") (), ())
  truncateTables _ _ _ := (answer (.told "no server") [], ())
  openSession _ _ := (answer (.told "no server") (), ())
  closeSession _ _ := ()
  runScript _ _ := (([], answer (.told "no luck") ()), ())
  makeDirectory stem _ := (answer ⟨.permissionDenied, stem⟩ stem, ())
  makeFile stem ending _ := (answer ⟨.permissionDenied, stem⟩ (stem ++ ending), ())
  writeFile _ _ _ := (answer .permissionDenied (), ())
  removeDirectory _ _ := ()
  removeFile _ _ := ()
where
  answer {ε α : Type} (fault : ε) (a : α) : Except ε α := if works then .ok a else .error fault

theorem Backend.steady_failed {w w' : Unit} {e : Event Unit}
    (h : (Backend.steady true).Happens w e w') : e.failed = false := by
  cases e <;>
    simp only [Backend.Happens, Backend.steady, Backend.steady.answer, Prod.mk.injEq] at h
  case ranScript =>
    obtain ⟨records, ⟨-, rfl⟩, -⟩ := h
    rfl
  case closed | removedDirectory | removedFile => rfl
  all_goals
    obtain ⟨rfl, -⟩ := h
    rfl

theorem Backend.steady_chain {w w' : Unit} {es : List (Event Unit)}
    (h : (Backend.steady true).Chain w es w') : ∀ e ∈ es, e.failed = false := by
  induction h with
  | nil => nofun
  | cons happens _ ih => exact List.forall_mem_cons.mpr ⟨steady_failed happens, ih⟩

namespace Fixture

open Work TemplateStep

variable {σ Session α : Type} {p : Plan} {B : Backend σ Session}

/-! ## Which database a script works on -/

/-- A script that was run had a connection string for one of the databases. -/
def WorksOn (p : Plan) (databases : List String) : Event Session → Prop
  | .ranScript i _ => ∃ database ∈ databases,
      i.environment.get? AppEnv.dsnName = some (p.config.connection.dsn database)
  | _ => True

theorem WorksOn.mono {names others : List String} {e : Event Session} (h : WorksOn p names e)
    (sub : names ⊆ others) : WorksOn p others e := by
  cases e with
  | ranScript =>
    obtain ⟨database, mem, named⟩ := h
    exact ⟨database, sub mem, named⟩
  | _ => trivial

theorem setupRun_dsn (p : Plan) (website database : String) (args : Script.Arguments) :
    (p.setupRun website database args).environment.get? AppEnv.dsnName =
      some (p.config.connection.dsn database) :=
  AppEnv.get?_dsnName _ _

theorem workState_dsn (p : Plan) (s : State) (website : String) :
    (workState p s website).childVariables.get? AppEnv.dsnName =
      some (p.config.connection.dsn p.config.templateDatabase) := by
  unfold workState
  split
  case isTrue there =>
    rw [State.pointsAt, Bool.and_eq_true, decide_eq_true_eq] at there
    exact there.2
  case isFalse => exact AppEnv.get?_dsnName _ _

theorem done_worksOn (p : Plan) (s : State) (f : Findings) (step : TemplateStep) :
    WorksOn p [p.config.templateDatabase] (done p s f step : Event Session) := by
  cases step with
  | opening => simp only [done]; split <;> trivial
  | website => exact ⟨_, .head _, setupRun_dsn p f.website _ _⟩
  | creation | filling => exact ⟨_, .head _, workState_dsn p s f.website⟩
  | _ => trivial

theorem TemplateStep.Breaks.worksOn {s : State} {f : Findings} {w : σ} {step : TemplateStep}
    {run : List (Event Session)} {e : Failure} (h : step.Breaks p B s f w run e) :
    ∀ event ∈ run, WorksOn p [p.config.templateDatabase] event := by
  cases h with
  | website ran => exact ran.forall fun _ => ⟨_, .head _, setupRun_dsn p f.website _ _⟩
  | creation ran | filling ran =>
    exact ran.forall fun _ => ⟨_, .head _, workState_dsn p s f.website⟩
  | _ => exact List.forall_mem_singleton.mpr trivial

/-- Only requests matter for where the scripts work. -/
theorem worksOn_of_requests {names : List String} {es : List (Event Session)}
    (h : ∀ e ∈ requests es, WorksOn p names e) : ∀ e ∈ es, WorksOn p names e := by
  intro e mem
  cases e with
  | ranScript => exact h _ (List.mem_filter.mpr ⟨mem, rfl⟩)
  | _ => trivial

theorem done_worksOn_map {s : State} {f : Findings} {steps : List TemplateStep}
    {es : List (Event Session)} (all : requests es = steps.map (done p s f)) :
    ∀ e ∈ es, WorksOn p [p.config.templateDatabase] e := by
  refine worksOn_of_requests fun e mem => ?_
  obtain ⟨step, -, rfl⟩ := List.mem_map.mp (all ▸ mem)
  exact done_worksOn p s f step

/-- However far a build comes, its scripts work on the template. -/
theorem Progress.worksOn {s : State} {f : Findings} {w : σ} {steps : List TemplateStep}
    {r : Except Failure Unit} {es : List (Event Session)} (h : Progress p B s f w steps r es) :
    ∀ e ∈ es, WorksOn p [p.config.templateDatabase] e := by
  cases h with
  | whole all => exact done_worksOn_map all
  | broken before order upTo reached breaks cleared =>
    have rest : ∀ e ∈ _, WorksOn p [p.config.templateDatabase] e :=
      worksOn_of_requests (by rw [cleared]; nofun)
    exact List.forall_mem_append.mpr ⟨done_worksOn_map upTo,
      List.forall_mem_append.mpr ⟨breaks.worksOn, rest⟩⟩

theorem Written.worksOn {database : String} {r : Except Failure Unit}
    {b b' : Bench (Chronicle σ Session)} {es : List (Event Session)}
    (h : Written p B database b r b') (noted : b'.world.events = b.world.events ++ es) :
    ∀ e ∈ es, WorksOn p [database] e := by
  have left : ∀ e ∈ (leaving b.fixture : List (Event Session)), WorksOn p [database] e := by
    unfold leaving
    cases b.fixture.website <;> simp [WorksOn]
  cases h with
  | unchanged =>
    obtain rfl := List.append_cancel_left (noted.symm.trans (List.append_nil _).symm)
    nofun
  | noDirectory _ _ events | noDotenv _ _ events | setUp _ _ events =>
    obtain rfl := List.append_cancel_left (events.symm.trans noted)
    refine List.forall_mem_append.mpr ⟨left, ?_⟩
    simp [making, WorksOn, setupRun_dsn]
  | notSetUp _ _ events _ ran =>
    obtain rfl := List.append_cancel_left (events.symm.trans noted)
    refine List.forall_mem_append.mpr ⟨left, List.forall_mem_append.mpr ⟨?_, ?_⟩⟩
    · simp [making, WorksOn]
    · refine List.forall_mem_append.mpr ⟨ran.forall fun _ => ?_, by simp [WorksOn]⟩
      exact ⟨_, .head _, setupRun_dsn p _ _ _⟩

/-- What is known of the events that are noted is known of the events of the course. -/
theorem Follows.noted {Φ Ψ : Event Session → Prop} {w : Work (Chronicle σ Session) α}
    (h : Follows p B.watched Φ w)
    (all : ∀ b es, (w b).2.world.events = b.world.events ++ es → ∀ e ∈ es, Ψ e) :
    Follows p B.watched Ψ w := by
  intro b
  obtain ⟨es, course, -⟩ := h b
  exact ⟨es, course, all b es (chain_watched course.chain).2⟩

theorem worksOn_of_isDatabase {names : List String} {e : Event Session}
    (server : e.isDatabase = true) : WorksOn p names e := by
  cases e <;> trivial

theorem follows_setupTemplate_worksOn : Follows p B.watched
    (WorksOn p [p.config.templateDatabase]) (setupTemplate p B.watched) := by
  have build : Follows p B.watched (WorksOn p [p.config.templateDatabase])
      (buildTemplate p B.watched p.config.templateDatabase) := by
    refine follows_buildTemplate.noted fun b es noted => ?_
    obtain ⟨-, f, es', noted', -, progress⟩ := buildTemplate_advances (p := p) (B := B) b
    obtain rfl := List.append_cancel_left (noted'.symm.trans noted)
    exact progress.worksOn
  exact closed_setupTemplate (closed_follows p B.watched _) follows_tell
    (follows_act (.lookedUp p.config.templateDatabase) (fun _ => rfl) fun _ => ⟨rfl, trivial⟩)
    (follows_drop fun _ => trivial) follows_found build

/-- Outside of what a caller asks for, scripts work on the template and the scenario database. -/
theorem follows_worksOn {op : Operation Session} (server : op.isLocal = false) :
    Follows p B.watched (WorksOn p [p.config.testDatabase, p.config.templateDatabase])
      (op.perform p B.watched) := by
  let Ours : Event Session → Prop :=
    WorksOn p [p.config.testDatabase, p.config.templateDatabase]
  have closed := closed_follows p B.watched Ours
  have template : Follows p B.watched Ours (setupTemplate p B.watched) :=
    follows_setupTemplate_worksOn.mono fun _ works => works.mono (by simp)
  have write : Follows p B.watched Ours (writeConfig p B.watched p.config.testDatabase) :=
    (follows_writeConfig _).noted fun b es noted e mem =>
      ((writeConfig_written _ b).worksOn noted e mem).mono (by simp)
  have drop (name : String) : Follows p B.watched Ours (act (B.watched.dropDatabase name)) :=
    follows_drop fun _ => trivial
  cases op with
  | setupTemplate => exact closed.bind template fun _ => closed.pure _
  | dropDatabase name =>
    exact closed.bind (closed_dropDatabase closed (drop name)) fun _ => closed.pure _
  | teardown session =>
    refine closed.bind (closed_teardown closed (fun s _ => ?_) fun _ => drop _) fun _ =>
      closed.pure _
    exact follows_change (.closed s) (fun _ => rfl) rfl trivial
  | setupDatabase =>
    refine closed.bind (closed_setupDatabase_server closed (fun event happens database => ?_)
      template write) fun _ => closed.pure _
    exact follows_act event happens fun x =>
      ⟨Event.isPlain_of_isDatabase (database x), worksOn_of_isDatabase (database x)⟩
  | _ => cases server

/-- What is known of the contents of the databases: a request leaves those as they are that it does
not name, and so does a script with those that its connection string does not name. -/
structure ContentView {Content : Type} (B : Backend σ Session) (held : σ → String → Content) :
    Prop where
  kept : ∀ {name e w w'}, B.Happens w e w' → e.script? = none → name ∉ e.databases →
    held w' name = held w name
  scripts : ∀ {name i answer dsn w w'}, B.Happens w (.ranScript i answer) w' →
    i.environment.get? AppEnv.dsnName = some dsn → Rehearsal.Recorder.databaseOf dsn ≠ name →
    held w' name = held w name

/-- No script of the fixture takes the database for one of its own. -/
def Plan.Discerned (p : Plan) (name : String) : Prop :=
  ∀ own ∈ [p.config.testDatabase, p.config.templateDatabase],
    Rehearsal.Recorder.databaseOf (p.config.connection.dsn own) ≠ name

theorem ContentView.chain_kept {Content : Type} {held : σ → String → Content}
    (view : ContentView B held) {name : String} (discerned : p.Discerned name) {w w' : σ}
    {es : List (Event Session)} (chain : B.Chain w es w')
    (all : ∀ e ∈ es, name ∉ e.databases ∧
      WorksOn p [p.config.testDatabase, p.config.templateDatabase] e) :
    held w' name = held w name := by
  refine chain.keeps (I := fun v => held v name = held w name) ?_ all rfl
  rintro v e v' happens ⟨unnamed, works⟩ same
  cases e with
  | ranScript =>
    obtain ⟨own, mem, pointed⟩ := works
    exact (view.scripts happens pointed (discerned own mem)).trans same
  | _ => exact (view.kept happens rfl unnamed).trans same

/-! ## A name that is not its own -/

section Steady

variable {b : Bench (Chronicle Unit Unit)}

theorem steady_found (w : Unit) : p.lost? (Backend.steady true) w = none := by
  unfold Plan.lost?
  split <;> rfl

/-- Where everything works, work does not end with a failure that needs one. -/
theorem steady_ok {w : Work (Chronicle Unit Unit) Unit} {Φ : Event Unit → Prop}
    (follows : Follows p (Backend.steady true).watched Φ w)
    (failed : ∀ e, (w b).1 = .error e → ∃ es, (w b).2.world.events = b.world.events ++ es ∧
      Broken p (Backend.steady true) b.world.world es) : (w b).1 = .ok () := by
  cases result : (w b).1 with
  | ok => rfl
  | error e =>
    obtain ⟨es, noted, ⟨event, mem, yes⟩ | ⟨_, _, m, _, -, -, lost⟩⟩ := failed e result
    · have works := Backend.steady_chain (follows.chain b noted) event mem
      cases works.symm.trans yes
    · cases (steady_found m).symm.trans lost

/-- Before a scenario database is made, its namesake is dropped. -/
theorem setupDatabase_steady (configured : b.fixture.Configured p) :
    (setupDatabase p (Backend.steady true).watched).Gives b fun _ b' =>
      .dropped p.config.testDatabase (.ok ()) ∈ b'.world.events := by
  let B := (Backend.steady true).watched
  have setUp : (setupTemplate p B).Gives b fun r _ => r = .ok () := by
    refine steady_ok follows_setupTemplate fun e failed => ?_
    have setUp : (setupTemplate p B).Gives b (TemplateSetUp p (Backend.steady true) b) :=
      setupTemplate_setUp configured
    unfold Gives at setUp
    exact (failed ▸ setUp).broken
  have written (m : Bench (Chronicle Unit Unit)) :
      (writeConfig p B p.config.testDatabase).Gives m fun r _ => r = .ok () := by
    refine steady_ok (follows_writeConfig _) fun e failed => ?_
    have written : (writeConfig p B p.config.testDatabase).Gives m
        (Written p (Backend.steady true) _ m) := writeConfig_written _ m
    unfold Gives at written
    exact (failed ▸ written).failed
  refine setUp.bind ?_ nofun
  rintro ⟨⟩ m -
  refine (written m).bind ?_ nofun
  rintro ⟨⟩ m' -
  refine Gives.bind (P := fun r n => r = .ok () ∧
    .dropped p.config.testDatabase (.ok ()) ∈ n.world.events) ⟨rfl, ?_⟩ ?_ (by simp)
  · exact List.mem_append_right _ (.head _)
  rintro ⟨⟩ n ⟨-, dropped⟩
  -- what is noted stays noted, so the rest does not matter
  let Noted (n : Bench (Chronicle Unit Unit)) : Prop :=
    .dropped p.config.testDatabase (.ok ()) ∈ n.world.events
  have closed : Closed (Keeps Noted) := closed_keeps fun _ _ h => h
  refine closed.bind (fun _ h => List.mem_append_left _ h) (fun _ =>
    closed.bind (closed.tell (by decide)) fun _ =>
    closed.bind (closed.attempt fun _ h => List.mem_append_left _ h) fun
    | .ok session => closed.pure session
    | .error e => closed.bind (closed.attempt (closed_teardown closed nofun fun _ _ h =>
        List.mem_append_left _ h)) fun
      | .ok () => closed.throw e
      | .error _ => closed.bind (closed.tell (by decide)) fun _ => closed.throw e) n dropped

/-- A template that cannot be built is dropped. -/
theorem setupTemplate_steady (configured : b.fixture.Configured p)
    (unready : b.fixture.templateReady = false) :
    (setupTemplate p (Backend.steady false).watched).Gives b fun _ b' =>
      .dropped p.config.templateDatabase (.ok ()) ∈ b'.world.events := by
  have follows : Follows p (Backend.steady false).watched (Preparing p)
      (setupTemplate p (Backend.steady false).watched) := follows_setupTemplate
  refine ((setupTemplate_setUp configured).and (follows.watched b)).mono ?_
  rintro r b' ⟨setUp, es, -, chain, noted, -⟩
  cases setUp with
  | already ready => cases unready.symm.trans ready
  | notLookedUp _ _ events | found _ _ events | notDropped _ _ events =>
    obtain rfl := List.append_cancel_left (events.symm.trans noted)
    obtain _ | ⟨happens, -⟩ := chain
    cases happens
  | built _ events complete =>
    obtain rfl := List.append_cancel_left (events.symm.trans noted)
    obtain ⟨_, -, rest⟩ := chain.of_append
    obtain ⟨_, -, steps⟩ := rest.of_append
    cases complete with
    | intro =>
      obtain _ | ⟨⟨records, created⟩, -⟩ := steps
      cases created
  | failed _ events build =>
    obtain rfl := List.append_cancel_left (events.symm.trans noted)
    obtain ⟨_, -, rest⟩ := chain.of_append
    obtain ⟨_, -, last⟩ := rest.of_append
    obtain _ | ⟨happens, -⟩ := last
    cases happens
    rw [events]
    simp

end Steady

/-! ## What becomes of the prebuilt database -/

/-- Whether a configuration is accepted does not depend on the name of the prebuilt database, if it
has one. -/
theorem fault?_apiDatabase {c : Config} (valid : c.fault? = none) {name : String}
    (named : name ≠ "") : ({ c with apiDatabase := name } : Config).fault? = none := by
  have filled : name.isEmpty = false := by simpa using named
  simp only [Config.fault?] at valid ⊢
  grind

/-- The prebuilt database has a name of its own. -/
def Plan.KeepsApart (p : Plan) : Prop :=
  p.config.apiDatabase ≠ p.config.testDatabase ∧ p.config.apiDatabase ≠ p.config.templateDatabase

instance (p : Plan) : Decidable p.KeepsApart :=
  inferInstanceAs (Decidable (_ ∧ _))

/-- Names without a semicolon are told apart if they are different. -/
theorem Plan.KeepsApart.discerned (apart : p.KeepsApart) (test : ';' ∉ p.config.testDatabase.toList)
    (template : ';' ∉ p.config.templateDatabase.toList) : p.Discerned p.config.apiDatabase := by
  intro own mem
  obtain rfl | mem := List.mem_cons.mp mem
  · rw [Connection.Params.databaseOf_dsn _ test]
    exact apart.1.symm
  · obtain rfl := List.mem_singleton.mp mem
    rw [Connection.Params.databaseOf_dsn _ template]
    exact apart.2.symm

theorem Plan.KeepsApart.unnamed (apart : p.KeepsApart) {op : Operation Session}
    (other : op ≠ .dropDatabase p.config.apiDatabase) {e : Event Session}
    (allowed : op.Allows p e) : p.config.apiDatabase ∉ e.databases := by
  intro named
  obtain test | template | dropped :=
    (Operation.asks_of_allows allowed (Event.isDatabase_of_mem named)).databases _ named
  · exact apart.1 test
  · exact apart.2 template
  · exact other dropped

theorem run_unnamed (apart : p.KeepsApart) {ops : List (Operation Session)}
    (spared : .dropDatabase p.config.apiDatabase ∉ ops) (w : σ) :
    ∀ e ∈ (Operation.run p B.watched ops { world := { world := w } }).2.world.events,
      p.config.apiDatabase ∉ e.databases := by
  obtain ⟨parts, each, course⟩ := Operation.run_allows p B.watched ops
    ({ world := { world := w } } : Bench (Chronicle σ Session))
  have noted := (chain_watched course.chain).2
  rw [List.nil_append] at noted
  rw [noted]
  intro e mem
  obtain ⟨op, given, allowed⟩ := Operation.exists_of_mem_flatten each e mem
  exact apart.unnamed (fun same => spared (same ▸ given)) allowed

theorem ContentView.perform_kept {Content : Type} {held : σ → String → Content}
    (view : ContentView B held) (apart : p.KeepsApart)
    (discerned : p.Discerned p.config.apiDatabase) {op : Operation Session}
    (server : op.isLocal = false) (other : op ≠ .dropDatabase p.config.apiDatabase)
    (b : Bench (Chronicle σ Session)) :
    held (op.perform p B.watched b).2.world.world p.config.apiDatabase =
      held b.world.world p.config.apiDatabase := by
  obtain ⟨es, -, chain, noted, allowed⟩ := (op.follows p B.watched).watched b
  obtain ⟨fs, -, -, noted', works⟩ := (follows_worksOn server).watched b
  obtain rfl := List.append_cancel_left (noted.symm.trans noted')
  exact view.chain_kept discerned chain fun e mem =>
    ⟨apart.unnamed other (allowed e mem), works e mem⟩

theorem dropped_of_shared (shared : ¬ p.KeepsApart) :
    ∃ works op, op ≠ .dropDatabase p.config.apiDatabase ∧
      .dropped p.config.apiDatabase (.ok ()) ∈
        (Operation.run p (Backend.steady works).watched [op]
          { world := { world := () } }).2.world.events := by
  by_cases test : p.config.apiDatabase = p.config.testDatabase
  · refine ⟨true, .setupDatabase, nofun, ?_⟩
    rw [Operation.run_cons, Operation.run_nil, Operation.perform, bind_pure_snd, test]
    exact setupDatabase_steady (by nofun)
  · have template : p.config.apiDatabase = p.config.templateDatabase :=
      Classical.byContradiction fun other => shared ⟨test, other⟩
    refine ⟨false, .setupTemplate, nofun, ?_⟩
    rw [Operation.run_cons, Operation.run_nil, Operation.perform, bind_pure_snd, template]
    exact setupTemplate_steady (by nofun) rfl

/-- A prebuilt database with a name of its own is left alone by every run that is not asked to drop
it: the server is not asked about it, and what it holds does not change with an operation on the
other two, if the connection strings tell the names apart. But every valid configuration stays one
if it is given one of their names, and then there is a run that drops it without being asked. -/
theorem apiDatabase_spared (valid : p.config.fault? = none) :
    (p.KeepsApart → ∀ {σ Session : Type} (B : Backend σ Session) (ops : List (Operation Session))
      (w : σ),
      let b := (Operation.run p B.watched ops { world := { world := w } }).2
      (.dropDatabase p.config.apiDatabase ∉ ops →
        ∀ e ∈ b.world.events, p.config.apiDatabase ∉ e.databases) ∧
      (p.Discerned p.config.apiDatabase →
        ∀ {Content : Type} {held : σ → String → Content}, ContentView B held →
          ∀ op : Operation Session, op.isLocal = false → op ≠ .dropDatabase p.config.apiDatabase →
            held (op.perform p B.watched b).2.world.world p.config.apiDatabase =
              held b.world.world p.config.apiDatabase)) ∧
    (∀ name ≠ "", ({ p.config with apiDatabase := name } : Config).fault? = none) ∧
    (¬ p.KeepsApart → ∃ works op, op ≠ .dropDatabase p.config.apiDatabase ∧
      .dropped p.config.apiDatabase (.ok ()) ∈
        (Operation.run p (Backend.steady works).watched [op]
          { world := { world := () } }).2.world.events) :=
  ⟨fun apart _ _ _ _ w => ⟨fun spared => run_unnamed apart spared w,
      fun discerned _ _ view _ server other => view.perform_kept apart discerned server other _⟩,
    fun _ named => fault?_apiDatabase valid named, dropped_of_shared⟩

end Fixture

namespace PlainWorld

open Fixture

theorem contentView : ContentView backend fun w name => name ∈ w.databases where
  kept happens quiet other := propext (listView.kept happens quiet other)
  scripts {name i answer dsn w w'} happens pointed other := by
    obtain ⟨records, ran⟩ := happens
    let Same (w' : PlainWorld) := (name ∈ w'.databases) = (name ∈ w.databases)
    refine request_keeps (P := Same) (request_of_runScript ran) (fun _ => rfl) fun rest => ?_
    unfold served
    split
    · simp [Same, pointed, Ne.symm other]
    · rfl

end PlainWorld

namespace Fixture

/-- A scenario comes and goes beside a prebuilt database. With the name of the scenario database, it
would be dropped. -/
theorem apiDatabase_spared_plain :
    let shared : Plan :=
      { PlainWorld.plan with config := { PlainWorld.plan.config with apiDatabase := "scen" } }
    let ops : List (Operation String) := [.setupApiDatabase, .setupTemplate, .setupDatabase]
    let b := (Operation.run PlainWorld.plan PlainWorld.backend.watched ops
      { world := { world := { databases := ["api"] } } }).2
    let after := ((Operation.teardown (some "scen")).perform PlainWorld.plan
      PlainWorld.backend.watched b).2
    PlainWorld.plan.config.fault? = none ∧ shared.config.fault? = none ∧
      (∀ e ∈ b.world.events, "api" ∉ e.databases) ∧
      ("api" ∈ after.world.world.databases) = ("api" ∈ b.world.world.databases) ∧
      ∃ works op, op ≠ .dropDatabase "scen" ∧ .dropped "scen" (.ok ()) ∈
        (Operation.run shared (Backend.steady works).watched [op]
          { world := { world := () } }).2.world.events := by
  intro shared ops
  have valid : PlainWorld.plan.config.fault? = none := by decide +kernel
  obtain ⟨own, renamed, -⟩ := apiDatabase_spared valid
  have apart : PlainWorld.plan.KeepsApart := by decide
  obtain ⟨quiet, held⟩ := own apart PlainWorld.backend ops { databases := ["api"] }
  refine ⟨valid, renamed "scen" (by decide), quiet (by simp [ops, PlainWorld.plan]),
    held (apart.discerned (by decide) (by decide)) PlainWorld.contentView
      (.teardown (some "scen")) rfl nofun, ?_⟩
  exact (apiDatabase_spared (p := shared) (renamed "scen" (by decide))).2.2 (by decide)

end Fixture

end Testbed
