import Testbed.Proofs.PlainWorld
import Testbed.Proofs.Template

/-!
# A fresh scenario database

The scenario database is set up in stages. First the template and the website are prepared, then an
old database is dropped, the template is copied, and a session is opened. The stage that fails
decides what was asked of the server and what is on it afterwards, and its failure is the one that
counts, also if the new database cannot be removed again.
-/

namespace Testbed

/-- Whether a database is made from a template or a session is opened. -/
def Event.isCopy {Session : Type} : Event Session → Bool
  | created .. | opened .. => true
  | _ => false

namespace Fixture

open Work

variable {σ Session : Type} {p : Plan} {B : Backend σ Session} {count : σ → String → Nat}

/-- A server on which the databases of a name can be counted. A drop that succeeds leaves none,
making one from a template adds it, and neither a failure nor a session changes anything. -/
structure CountView (B : Backend σ Session) (count : σ → String → Nat) : Prop where
  dropped {name w w'} : B.dropDatabase name w = (.ok (), w') → count w' name = 0
  notDropped {name e w w'} : B.dropDatabase name w = (.error e, w') → count w' name = count w name
  created {name template w w'} :
    B.createDatabase name template w = (.ok (), w') → count w' name = count w name + 1
  notCreated {name template e w w'} :
    B.createDatabase name template w = (.error e, w') → count w' name = count w name
  opened {name answer w w'} : B.openSession name w = (answer, w') → count w' name = count w name

/-! ## Stages -/

/-- All that comes before the scenario database itself. -/
def prepare (p : Plan) (B : Backend σ Session) : Work σ Unit := do
  setupTemplate p B
  writeConfig p B p.config.testDatabase

theorem setupDatabase_eq (p : Plan) (B : Backend σ Session) :
    setupDatabase p B = (do prepare p B; copyTemplate p B) := by
  unfold setupDatabase prepare
  rw [bind_assoc]

theorem isCopy_of_preparing {e : Event Session} (h : Preparing p e) : e.isCopy = false := by
  cases e <;> first | rfl | simp [Preparing, Building, Settling, Filling] at h

theorem Written.pointsAt {database : String} {b b' : Bench (Chronicle σ Session)}
    (h : Written p B database b (.ok ()) b') :
    b'.fixture.pointsAt (p.config.connection.dsn database) = true := by
  cases h with
  | unchanged same => exact same
  | setUp _ state =>
    rw [state]
    simp [State.pointsAt, State.settled, State.childVariables, Plan.variablesOf,
      AppEnv.get?_dsnName]

/-- What the preparation comes to, with the events `es`. It neither makes a database from the
template nor opens a session. -/
structure Prepared (p : Plan) (B : Backend σ Session) (b : Bench (Chronicle σ Session))
    (r : Except Failure Unit) (es : List (Event Session)) (m : Bench (Chronicle σ Session)) :
    Prop where
  comes : prepare p B.watched b = (r, m)
  events : m.world.events = b.world.events ++ es
  early : ∀ event ∈ es, event.isCopy = false
  pointsAt : r = .ok () →
    m.fixture.pointsAt (p.config.connection.dsn p.config.testDatabase) = true

theorem prepare_prepared (b : Bench (Chronicle σ Session)) :
    (prepare p B.watched).Gives b fun r m => ∃ es, Prepared p B b r es m := by
  have closed := closed_follows p B.watched (Preparing p)
  have follows : Follows p B.watched (Preparing p) (prepare p B.watched) :=
    closed.bind follows_setupTemplate fun _ => (follows_writeConfig _).mono fun _ => .inl ∘ .inl
  have pointed : (prepare p B.watched).Gives b fun r m => r = .ok () →
      m.fixture.pointsAt (p.config.connection.dsn p.config.testDatabase) = true := by
    refine Gives.bind (P := fun _ _ => True) trivial (fun _ m _ => ?_) (fun _ _ _ => nofun)
    refine (writeConfig_written _ m).mono ?_
    rintro r m' written rfl
    exact written.pointsAt
  obtain ⟨es, -, -, events, preparing⟩ := follows.watched b
  exact ⟨es, rfl, events, fun event mem => isCopy_of_preparing (preparing event mem), pointed⟩

def removal (p : Plan) (answer : Except Failure Unit) : List (Event Session) :=
  if p.config.keepTestDatabase then [] else [.dropped p.config.testDatabase answer]

/-- The ways in which the set-up of the scenario database ends. -/
inductive DatabaseSetUp (p : Plan) (B : Backend σ Session) (count : σ → String → Nat)
    (b : Bench (Chronicle σ Session)) :
    Except Failure Session → Bench (Chronicle σ Session) → Prop
  | unprepared {e es b'} (failed : Prepared p B b (.error e) es b') :
      DatabaseSetUp p B count b (.error e) b'
  | notDropped {es m e b'} (prepared : Prepared p B b (.ok ()) es m)
      (events : b'.world.events =
        b.world.events ++ (es ++ [.dropped p.config.testDatabase (.error e)])) :
      DatabaseSetUp p B count b (.error e) b'
  | notCreated {es m e b'} (prepared : Prepared p B b (.ok ()) es m)
      (events : b'.world.events = b.world.events ++ (es ++
        [.dropped p.config.testDatabase (.ok ()),
          .created p.config.testDatabase p.config.templateDatabase (.error e)]))
      (absent : count b'.world.world p.config.testDatabase = 0) :
      DatabaseSetUp p B count b (.error e) b'
  | notOpened {es m e answer b'} (prepared : Prepared p B b (.ok ()) es m)
      (events : b'.world.events = b.world.events ++ (es ++
        [.dropped p.config.testDatabase (.ok ()),
          .created p.config.testDatabase p.config.templateDatabase (.ok ()),
          .opened p.config.testDatabase (.error e)] ++ removal p answer))
      (absent : p.config.keepTestDatabase = false → answer = .ok () →
        count b'.world.world p.config.testDatabase = 0)
      (stays : p.config.keepTestDatabase = true ∨ answer ≠ .ok () →
        count b'.world.world p.config.testDatabase = 1)
      (warned : ∀ second, answer = .error second →
        b'.log.getLast? = some (Log.warn "could not remove scenario database"
          [("database", p.config.testDatabase), ("error", second.message)])) :
      DatabaseSetUp p B count b (.error e) b'
  | opened {es m session b'} (prepared : Prepared p B b (.ok ()) es m)
      (events : b'.world.events = b.world.events ++ (es ++
        [.dropped p.config.testDatabase (.ok ()),
          .created p.config.testDatabase p.config.templateDatabase (.ok ()),
          .opened p.config.testDatabase (.ok session)]))
      (once : count b'.world.world p.config.testDatabase = 1)
      (website : b'.fixture.website.isSome)
      (configured : b'.fixture.childVariables.get? AppEnv.dsnName =
        some (p.config.connection.dsn p.config.testDatabase)) :
      DatabaseSetUp p B count b (.ok session) b'

/-- Giving up a database that is to be kept does nothing. -/
theorem teardown_watched (view : CountView B count) (b : Bench (Chronicle σ Session)) :
    (teardown p B.watched none).Gives b fun r b' =>
      b'.world.events = b.world.events ++ removal p r ∧
        (p.config.keepTestDatabase = false → r = .ok () →
          count b'.world.world p.config.testDatabase = 0) ∧
        (p.config.keepTestDatabase = true ∨ r ≠ .ok () →
          count b'.world.world p.config.testDatabase =
            count b.world.world p.config.testDatabase) := by
  unfold teardown removal
  split
  case isTrue keep => exact ⟨by simp, by simp [keep], fun _ => rfl⟩
  case isFalse drop =>
    refine (dropDatabase_watched p.config.testDatabase b).mono ?_
    rintro r b' ⟨-, events, dropped⟩
    refine ⟨events, fun _ ok => view.dropped (ok ▸ dropped), fun failed => ?_⟩
    cases r with
    | ok _ => simp [drop] at failed
    | error e => exact view.notDropped dropped

/-- After the preparation the stages are taken one by one. -/
theorem copyTemplate_setUp (view : CountView B count) {b m : Bench (Chronicle σ Session)}
    {es : List (Event Session)} (prepared : Prepared p B b (.ok ()) es m) :
    (copyTemplate p B.watched).Gives m (DatabaseSetUp p B count b) := by
  refine Gives.bind (act_watched (.dropped p.config.testDatabase) fun _ => rfl) ?_ ?_
  case refine_2 =>
    rintro e n ⟨-, events, -⟩
    exact .notDropped prepared (by rw [events, prepared.events, List.append_assoc])
  rintro ⟨⟩ n ⟨state, events, dropped⟩
  have none : count n.world.world p.config.testDatabase = 0 := view.dropped dropped
  refine Gives.bind (act_watched (.created p.config.testDatabase p.config.templateDatabase)
    fun _ => rfl) ?_ ?_
  case refine_2 =>
    rintro e n' ⟨-, events', created⟩
    refine .notCreated prepared ?_ (by rw [view.notCreated created, none])
    rw [events', events, prepared.events]
    simp
  rintro ⟨⟩ n' ⟨state', events', created⟩
  have one : count n'.world.world p.config.testDatabase = 1 := by rw [view.created created, none]
  rw [gives_tell_bind, gives_attempt_bind]
  refine Gives.mono (act_watched (.opened p.config.testDatabase) fun _ => rfl) ?_
  rintro answer n'' ⟨state'', events'', answered⟩
  have still : count n''.world.world p.config.testDatabase = 1 := by rw [view.opened answered, one]
  have noted : n''.world.events = b.world.events ++ (es ++
      [.dropped p.config.testDatabase (.ok ()),
        .created p.config.testDatabase p.config.templateDatabase (.ok ()),
        .opened p.config.testDatabase answer]) := by
    rw [events'', events', events, prepared.events]
    simp
  cases answer with
  | ok session =>
    have same : n''.fixture = m.fixture := state''.trans (state'.trans state)
    have points := prepared.pointsAt rfl
    rw [← same, State.pointsAt, Bool.and_eq_true, decide_eq_true_eq] at points
    exact .opened prepared noted still points.1 points.2
  | error e =>
    rw [gives_attempt_bind]
    refine (teardown_watched view n'').mono ?_
    rintro r b' ⟨removed, absent, stays⟩
    have after : b'.world.events = b.world.events ++ (es ++
        [.dropped p.config.testDatabase (.ok ()),
          .created p.config.testDatabase p.config.templateDatabase (.ok ()),
          .opened p.config.testDatabase (.error e)] ++ removal p r) := by
      rw [removed, noted, List.append_assoc]
    cases r with
    | ok _ =>
      refine .notOpened prepared after absent (fun h => (stays h).trans still) ?_
      rintro second impossible
      cases impossible
    | error second =>
      refine .notOpened prepared after absent (fun h => (stays h).trans still) ?_
      rintro _ ⟨⟩
      exact List.getLast?_concat

/-- The set-up of the scenario database ends in no other way, whatever the state of the fixture and
whatever the outside answers. -/
theorem setupDatabase_fresh (view : CountView B count) (b : Bench (Chronicle σ Session)) :
    (setupDatabase p B.watched).Gives b (DatabaseSetUp p B count b) := by
  rw [setupDatabase_eq]
  refine (prepare_prepared b).bind ?_ ?_
  · rintro ⟨⟩ m ⟨es, prepared⟩
    exact copyTemplate_setUp view prepared
  · rintro e m ⟨es, unprepared⟩
    exact .unprepared unprepared

end Fixture

namespace PlainWorld

open Fixture

theorem countView : CountView backend fun w name => w.databases.count name where
  dropped {name w w'} h := by
    simp only [backend, stage] at h
    obtain ⟨rest, answer⟩ := request_ok h
    obtain ⟨-, rfl⟩ := Prod.mk.inj answer
    simp [List.count_eq_zero]
  notDropped {name e w w'} h := by
    simp only [backend, stage] at h
    obtain ⟨rest, ⟨-, rfl⟩ | answer⟩ := request_cases h
    · rfl
    · cases answer
  created {name template w w'} h := by
    simp only [backend, stage] at h
    obtain ⟨rest, answer⟩ := request_ok h
    split at answer
    · obtain ⟨-, rfl⟩ := Prod.mk.inj answer
      simp
    · cases answer
  notCreated {name template e w w'} h := by
    simp only [backend, stage] at h
    obtain ⟨rest, ⟨-, rfl⟩ | answer⟩ := request_cases h
    · rfl
    · split at answer
      · cases answer
      · obtain ⟨-, rfl⟩ := Prod.mk.inj answer
        rfl
  opened {name answer w w'} h := by
    simp only [backend, stage] at h
    exact request_keeps (P := fun w' => w'.databases.count name = w.databases.count name) h
      (fun _ => rfl) fun _ => rfl

end PlainWorld

namespace Fixture

/-- Neither can the new database be opened nor removed again. -/
theorem setupDatabase_fresh_unremoved :
    let b : Bench (Chronicle PlainWorld String) :=
      { world := { world := { databases := ["tmpl", "scen"]
                              troubles := List.replicate 6 false ++ [true, true] } } }
    let (r, b') := setupDatabase PlainWorld.plan PlainWorld.backend.watched b
    r.isOk = false ∧ b'.world.world.databases = ["tmpl", "scen"] ∧
      DatabaseSetUp PlainWorld.plan PlainWorld.backend (fun w name => w.databases.count name) b
        r b' :=
  ⟨by decide +kernel, by decide +kernel, setupDatabase_fresh PlainWorld.countView _⟩

end Fixture

end Testbed
