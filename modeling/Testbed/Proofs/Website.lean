import Testbed.Proofs.Dsn
import Testbed.Proofs.Frame

/-!
# Writing a configuration

Writing a configuration ends in one of five ways, and each of them says which requests were made
and in which state the fixture is left.
-/

namespace Testbed.Fixture

open Work

variable {σ Session : Type} {p : Plan} {B : Backend σ Session} {database : String}
  {b : Bench (Chronicle σ Session)}

/-- A run of the setup script in a website that was made for a database. -/
def Plan.setupRun (p : Plan) (website database : String) (args : Script.Arguments) :
    Script.Invocation where
  command := p.command .setup args
  directory := website
  environment := p.variablesOf database

def leaving (s : State) : List (Event Session) :=
  (s.website.map .removedDirectory).toList

def making (p : Plan) (database website : String) : List (Event Session) :=
  [.madeDirectory websiteStem (.ok website),
    .wrote (dotenvFile website) (Dotenv.render (p.variablesOf database)) (.ok ())]

/-- The ways in which the run of a script ends in a world, with its events. Only without a path
there is no run. -/
inductive Ran (p : Plan) (B : Backend σ Session) (w : σ) (script : Script.Name)
    (i : Script.Invocation) : Except Failure Unit → List (Event Session) → Prop
  | lost {reason} (lost : p.lost? B w = some reason) :
      Ran p B w script i (.error (.scriptPath ⟨script.text, reason⟩)) []
  | failed {cause} (found : p.lost? B w = none) :
      Ran p B w script i (.error (.script script cause)) [.ranScript i (.error cause)]
  | succeeded (found : p.lost? B w = none) : Ran p B w script i (.ok ()) [.ranScript i (.ok ())]

/-- From the world `w` on an event failed, or some of the events led to a world in which a script
had no path. -/
def Broken (p : Plan) (B : Backend σ Session) (w : σ) (es : List (Event Session)) : Prop :=
  (∃ event ∈ es, event.failed = true) ∨ ∃ front back m reason,
    es = front ++ back ∧ B.Chain w front m ∧ p.lost? B m = some reason

/-- The ways in which writing a configuration ends. -/
inductive Written (p : Plan) (B : Backend σ Session) (database : String)
    (b : Bench (Chronicle σ Session)) :
    Except Failure Unit → Bench (Chronicle σ Session) → Prop
  | unchanged (same : b.fixture.pointsAt (p.config.connection.dsn database) = true) :
      Written p B database b (.ok ())
        { b with
          log := b.log ++ [Log.debug "application config unchanged" [("database", database)]] }
  | noDirectory {fault b'}
      (other : b.fixture.pointsAt (p.config.connection.dsn database) = false)
      (state : b'.fixture = b.fixture.homeless)
      (events : b'.world.events =
        b.world.events ++ (leaving b.fixture ++ [.madeDirectory websiteStem (.error fault)])) :
      Written p B database b (.error (.websiteDirectory fault)) b'
  | noDotenv {website fault b'}
      (other : b.fixture.pointsAt (p.config.connection.dsn database) = false)
      (state : b'.fixture = b.fixture.homeless)
      (events : b'.world.events =
        b.world.events ++ (leaving b.fixture ++ [.madeDirectory websiteStem (.ok website),
          .wrote (dotenvFile website) (Dotenv.render (p.variablesOf database)) (.error fault),
          .removedDirectory website])) :
      Written p B database b (.error (.dotenv (dotenvFile website) fault)) b'
  | notSetUp {website e run m b'}
      (other : b.fixture.pointsAt (p.config.connection.dsn database) = false)
      (state : b'.fixture = (b.fixture.settled (p.variablesOf database) website).homeless)
      (events : b'.world.events =
        b.world.events ++ (leaving b.fixture ++ (making p database website ++
          (run ++ [.removedDirectory website]))))
      (reached : B.Chain b.world.world (leaving b.fixture ++ making p database website) m)
      (ran : Ran p B m .setup (p.setupRun website database websiteArguments) (.error e) run) :
      Written p B database b (.error e) b'
  | setUp {website b'}
      (other : b.fixture.pointsAt (p.config.connection.dsn database) = false)
      (state : b'.fixture = b.fixture.settled (p.variablesOf database) website)
      (events : b'.world.events =
        b.world.events ++ (leaving b.fixture ++ (making p database website ++
          [.ranScript (p.setupRun website database websiteArguments) (.ok ())]))) :
      Written p B database b (.ok ()) b'

section Runs

variable {w m : σ} {script : Script.Name} {i : Script.Invocation} {r : Except Failure Unit}
  {es fs run : List (Event Session)}

/-- What holds of the script being run holds of all that happens. -/
theorem Ran.forall (h : Ran p B w script i r run) {Φ : Event Session → Prop}
    (all : ∀ answer, Φ (.ranScript i answer)) : ∀ e ∈ run, Φ e := by
  cases h with
  | lost => exact nofun
  | failed | succeeded => exact List.forall_mem_singleton.mpr (all _)

theorem Ran.events (h : Ran p B w script i r run) :
    run = [] ∨ ∃ answer, run = [.ranScript i answer] := by
  cases h with
  | lost => exact .inl rfl
  | failed | succeeded => exact .inr ⟨_, rfl⟩

/-- A script that did not succeed met a failure. -/
theorem Ran.broken {e : Failure} (h : Ran p B w script i (.error e) run) : Broken p B w run := by
  cases h with
  | lost lost => exact .inr ⟨[], [], w, _, rfl, .nil, lost⟩
  | failed => exact .inl ⟨_, .head _, rfl⟩

theorem Broken.append (h : Broken p B w es) (fs : List (Event Session)) :
    Broken p B w (es ++ fs) := by
  rcases h with ⟨event, mem, failed⟩ | ⟨front, back, m, reason, rfl, reached, lost⟩
  · exact .inl ⟨event, List.mem_append_left _ mem, failed⟩
  · exact .inr ⟨front, back ++ fs, m, reason, List.append_assoc .., reached, lost⟩

theorem Broken.after (h : Broken p B m fs) (chain : B.Chain w es m) : Broken p B w (es ++ fs) := by
  rcases h with ⟨event, mem, failed⟩ | ⟨front, back, n, reason, rfl, reached, lost⟩
  · exact .inl ⟨event, List.mem_append_right _ mem, failed⟩
  · exact .inr ⟨es ++ front, back, n, reason, (List.append_assoc ..).symm, chain.append reached,
      lost⟩

end Runs

namespace Written

variable {r : Except Failure Unit} {b' : Bench (Chronicle σ Session)}

theorem ready (h : Written p B database b r b') :
    b'.fixture.templateReady = b.fixture.templateReady := by
  cases h with
  | unchanged => rfl
  | noDirectory _ state | noDotenv _ state | notSetUp _ state | setUp _ state => rw [state]; rfl

theorem atHome (h : Written p B database b (.ok ()) b') (configured : b.fixture.Configured p) :
    b'.fixture.AtHome p database := by
  cases h with
  | unchanged same => exact (State.pointsAt_iff configured database).mp same
  | setUp _ state => rw [state]; exact ⟨rfl, rfl⟩

theorem homeless {e : Failure} (h : Written p B database b (.error e) b') :
    b'.fixture.website = none := by
  cases h with
  | noDirectory _ state | noDotenv _ state | notSetUp _ state => rw [state]; rfl

theorem noted (h : Written p B database b r b') :
    ∃ es, b'.world.events = b.world.events ++ es := by
  cases h with
  | unchanged => exact ⟨[], (List.append_nil _).symm⟩
  | noDirectory _ _ events | noDotenv _ _ events | notSetUp _ _ events | setUp _ _ events =>
    exact ⟨_, events⟩

/-- A configuration that is not written has met a failure. -/
theorem failed {e : Failure} (h : Written p B database b (.error e) b') :
    ∃ es, b'.world.events = b.world.events ++ es ∧ Broken p B b.world.world es := by
  cases h with
  | noDirectory _ _ events =>
    exact ⟨_, events, .inl ⟨_, List.mem_append_right _ (.head _), rfl⟩⟩
  | noDotenv _ _ events =>
    exact ⟨_, events, .inl ⟨_, List.mem_append_right _ (.tail _ (.head _)), rfl⟩⟩
  | notSetUp _ _ events reached ran =>
    rw [← List.append_assoc (leaving b.fixture)] at events
    exact ⟨_, events, (ran.broken.append _).after reached⟩

end Written

theorem leaveWebsite_watched (b : Bench (Chronicle σ Session)) :
    (leaveWebsite B.watched).Gives b fun r b' =>
      r = .ok () ∧ b'.fixture = b.fixture.homeless ∧
        b'.world.events = b.world.events ++ leaving b.fixture ∧
        B.Chain b.world.world (leaving b.fixture) b'.world.world := by
  unfold Gives
  rw [leaveWebsite_apply]
  rcases b with ⟨⟨environment, website | website, ready, number⟩, log, world⟩
  · exact ⟨rfl, rfl, by simp [leaving], .nil⟩
  · exact ⟨rfl, rfl, rfl, .single rfl⟩

theorem makeWebsite_watched (environment : Dictionary) (b : Bench (Chronicle σ Session)) :
    (makeWebsite B.watched environment).Gives b fun r b' =>
      b'.fixture = b.fixture ∧
        match r with
        | .ok website =>
          let made : List (Event Session) := [.madeDirectory websiteStem (.ok website),
            .wrote (dotenvFile website) (Dotenv.render environment) (.ok ())]
          b'.world.events = b.world.events ++ made ∧
            B.Chain b.world.world made b'.world.world
        | .error e =>
          (∃ fault, e = .websiteDirectory fault ∧ b'.world.events = b.world.events ++
            [.madeDirectory websiteStem (.error fault)]) ∨
          ∃ website fault, e = .dotenv (dotenvFile website) fault ∧
            b'.world.events = b.world.events ++
              [.madeDirectory websiteStem (.ok website),
                .wrote (dotenvFile website) (Dotenv.render environment) (.error fault),
                .removedDirectory website] := by
  unfold Gives
  rw [makeWebsite_apply]
  rcases made : B.watched.makeDirectory websiteStem b.world with ⟨fault | website, w⟩
  · have noted := (happens_watched (e := .madeDirectory websiteStem (.error fault)) made).2
    exact ⟨rfl, .inl ⟨fault, rfl, noted⟩⟩
  obtain ⟨happens, noted⟩ := happens_watched (e := .madeDirectory websiteStem (.ok website)) made
  rcases wrote : B.watched.writeFile (dotenvFile website) (Dotenv.render environment) w with
    ⟨fault | ⟨⟩, w'⟩
  · have noted' := (happens_watched (e := .wrote _ _ (.error fault)) wrote).2
    simp only [wrote]
    refine ⟨trivial, .inr ⟨website, fault, rfl, ?_⟩⟩
    simp [Backend.watched, Chronicle.marking, noted', noted]
  · obtain ⟨happens', noted'⟩ := happens_watched (e := .wrote _ _ (.ok ())) wrote
    simp only [wrote]
    exact ⟨trivial, by simp [noted', noted], .cons happens (.single happens')⟩

theorem runScript_watched (script : Script.Name) (args : Script.Arguments)
    (b : Bench (Chronicle σ Session)) :
    (runScript p B.watched script args).Gives b fun r b' =>
      b'.fixture = b.fixture ∧ ∃ run,
        Ran p B b.world.world script (p.invocation b.fixture script args) r run ∧
        b'.world.events = b.world.events ++ run ∧
        B.Chain b.world.world run b'.world.world := by
  unfold Gives
  cases lost : p.lost? B.watched b.world with
  | some reason =>
    rw [runScript_of_lost lost]
    exact ⟨rfl, [], .lost lost, (List.append_nil _).symm, .nil⟩
  | none =>
    rw [runScript_apply lost]
    have happens {answer : Except Failure Unit}
        (h : (B.watched.runScript (p.invocation b.fixture script args) b.world).1.2 = answer) :=
      happens_watched (e := .ranScript (p.invocation b.fixture script args) answer)
        ⟨_, Prod.ext (Prod.ext rfl h) rfl⟩
    cases answer : (B.watched.runScript (p.invocation b.fixture script args) b.world).1.2 with
    | ok _ => exact ⟨rfl, _, .succeeded lost, (happens answer).2, .single (happens answer).1⟩
    | error cause => exact ⟨rfl, _, .failed lost, (happens answer).2, .single (happens answer).1⟩

/-- Writing a configuration ends in no other way, whatever the outside answers. -/
theorem writeConfig_written (database : String) (b : Bench (Chronicle σ Session)) :
    (writeConfig p B.watched database).Gives b (Written p B database b) := by
  unfold writeConfig
  rw [gives_fixture_bind]
  split
  case isTrue same => exact .unchanged same
  case isFalse other =>
  have other := Bool.eq_false_iff.mpr other
  refine (leaveWebsite_watched b).bind ?_ (by rintro e m ⟨impossible, _⟩; cases impossible)
  rintro _ m ⟨-, state, events, left⟩
  refine (makeWebsite_watched _ m).bind ?_ ?_
  · rintro website m' ⟨state', events', made⟩
    rw [gives_tell_bind, gives_setFixture_bind, gives_attempt_bind]
    refine (runScript_watched _ _ _).mono ?_
    rintro r n ⟨state'', run, ran, events'', -⟩
    have ran : Ran p B m'.world.world .setup (p.setupRun website database websiteArguments) r run :=
      ran
    have events'' : n.world.events = b.world.events ++ (leaving b.fixture ++
        (making p database website ++ run)) := by
      rw [events'', events', events]
      simp [making, Plan.variablesOf]
    have state'' : n.fixture = b.fixture.settled (p.variablesOf database) website := by
      rw [state'', state', state]
      rfl
    cases r with
    | ok _ =>
      cases ran with
      | succeeded => exact .setUp other state'' events''
    | error e =>
      refine (leaveWebsite_watched n).bind ?_ (by rintro e m ⟨impossible, _⟩; cases impossible)
      rintro _ n' ⟨-, state, events, -⟩
      change Written p B database b (.error e) n'
      refine .notSetUp other (by rw [state, state'']) ?_ (left.append made) ran
      rw [events, events'', state'']
      simp [leaving, State.settled]
  · rintro _ m' ⟨state', ⟨fault, rfl, events'⟩ | ⟨website, fault, rfl, events'⟩⟩
    · exact .noDirectory other (by rw [state', state]) (by rw [events', events]; simp)
    · refine .noDotenv other (by rw [state', state]) ?_
      rw [events', events]
      simp [Plan.variablesOf]

end Testbed.Fixture
