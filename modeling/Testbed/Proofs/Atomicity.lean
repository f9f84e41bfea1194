import Testbed.Proofs.PlainWorld
import Testbed.Proofs.Template

/-!
# A template is set up completely or given up

The set-up of a template consists of steps in one order, and the first step that fails is the last
one that is taken. Its failure is the one that counts. If the build had begun by then, the template
is dropped once, and nothing else is asked of the outside.
-/

namespace Testbed

def Event.isRemoval {Session : Type} : Event Session → Bool
  | removedDirectory _ | removedFile _ => true
  | _ => false

namespace Fixture

open Work

variable {σ Session : Type}

/-- The events apart from the removal of what was temporary. -/
def requests (es : List (Event Session)) : List (Event Session) :=
  es.filter fun e => !e.isRemoval

theorem requests_append (es fs : List (Event Session)) :
    requests (es ++ fs) = requests es ++ requests fs :=
  List.filter_append es fs

@[simp] theorem requests_leaving (s : State) :
    requests (leaving s : List (Event Session)) = [] := by
  unfold leaving
  cases s.website <;> rfl

/-- The steps of setting up a template. Each of them makes one request, or none if it is a script
without a path. -/
inductive TemplateStep where
  /-- Looks for a template or, where templates are not reused, drops an old one. -/
  | opening
  | directory
  | dotenv
  | website
  | creation
  | truncation
  | osmFile
  | osmContent
  | filling
  deriving DecidableEq

/-- What the outside gives to a set-up: the website, the tables that were emptied, and the file
for the data. -/
structure Findings where
  website : String
  tables : List String
  osm : String

namespace TemplateStep

/-- The steps of pointing the application at the template, unless it points there already. -/
def settling (p : Plan) (s : State) : List TemplateStep :=
  if s.pointsAt (p.config.connection.dsn p.config.templateDatabase) then []
  else [directory, dotenv, website]

def building (p : Plan) (s : State) : List TemplateStep :=
  settling p s ++ [creation, truncation, osmFile, osmContent, filling]

/-- The steps of a set-up that finds no template. -/
def order (p : Plan) (s : State) : List TemplateStep :=
  opening :: building p s

variable (p : Plan) (B : Backend σ Session) (s : State) (f : Findings)

def workState (website : String) : State :=
  if s.pointsAt (p.config.connection.dsn p.config.templateDatabase) then s
  else s.settled (p.variablesOf p.config.templateDatabase) website

def done : TemplateStep → Event Session
  | opening =>
    if p.config.reuseTemplate then .lookedUp p.config.templateDatabase (.ok false)
    else .dropped p.config.templateDatabase (.ok ())
  | directory => .madeDirectory websiteStem (.ok f.website)
  | dotenv =>
    .wrote (dotenvFile f.website) (Dotenv.render (p.variablesOf p.config.templateDatabase)) (.ok ())
  | website => .ranScript (p.setupRun f.website p.config.templateDatabase websiteArguments) (.ok ())
  | creation =>
    .ranScript (p.invocation (workState p s f.website) .setup creationArguments) (.ok ())
  | truncation => .truncated p.config.templateDatabase externalTables (.ok f.tables)
  | osmFile => .madeFile osmStem osmEnding (.ok f.osm)
  | osmContent => .wrote f.osm emptyOsm (.ok ())
  | filling =>
    .ranScript (p.invocation (workState p s f.website) .setup (importArguments f.osm)) (.ok ())

/-- The events of a step that fails in the world `w`, and the failure of the set-up that comes of
it. -/
inductive Breaks (w : σ) : TemplateStep → List (Event Session) → Failure → Prop
  | notLookedUp {e} : p.config.reuseTemplate = true →
      Breaks w opening [.lookedUp p.config.templateDatabase (.error e)] e
  | notDropped {e} : p.config.reuseTemplate = false →
      Breaks w opening [.dropped p.config.templateDatabase (.error e)] e
  | directory {fault} :
      Breaks w directory [.madeDirectory websiteStem (.error fault)] (.websiteDirectory fault)
  | dotenv {fault} :
      Breaks w dotenv
        [.wrote (dotenvFile f.website) (Dotenv.render (p.variablesOf p.config.templateDatabase))
          (.error fault)]
        (.dotenv (dotenvFile f.website) fault)
  | website {run e} :
      Ran p B w .setup (p.setupRun f.website p.config.templateDatabase websiteArguments) (.error e)
        run →
      Breaks w website run e
  | creation {run e} :
      Ran p B w .setup (p.invocation (workState p s f.website) .setup creationArguments) (.error e)
        run →
      Breaks w creation run e
  | truncation {e} :
      Breaks w truncation [.truncated p.config.templateDatabase externalTables (.error e)] e
  | osmFile {fault} :
      Breaks w osmFile [.madeFile osmStem osmEnding (.error fault)] (.osmFile fault)
  | osmContent {fault} :
      Breaks w osmContent [.wrote f.osm emptyOsm (.error fault)] (.osmContent fault)
  | filling {run e} :
      Ran p B w .setup (p.invocation (workState p s f.website) .setup (importArguments f.osm))
        (.error e) run →
      Breaks w filling run e

end TemplateStep

open TemplateStep

/-- How far steps came from the world `w` on. Either all of them are done, or one failed in the
world to which those before it had led, and those after it were not taken. -/
inductive Progress (p : Plan) (B : Backend σ Session) (s : State) (f : Findings) (w : σ)
    (steps : List TemplateStep) : Except Failure Unit → List (Event Session) → Prop
  | whole {es} (all : requests es = steps.map (done p s f)) :
      Progress p B s f w steps (.ok ()) es
  | broken (before : List TemplateStep) {step after front m run rest e}
      (order : steps = before ++ step :: after)
      (upTo : requests front = before.map (done p s f)) (reached : B.Chain w front m)
      (breaks : step.Breaks p B s f m run e) (cleared : requests rest = []) :
      Progress p B s f w steps (.error e) (front ++ (run ++ rest))

def Advances (p : Plan) (B : Backend σ Session) (s : State) (f : Findings)
    (steps : List TemplateStep) (b : Bench (Chronicle σ Session)) (r : Except Failure Unit)
    (b' : Bench (Chronicle σ Session)) : Prop :=
  ∃ es, b'.world.events = b.world.events ++ es ∧ B.Chain b.world.world es b'.world.world ∧
    Progress p B s f b.world.world steps r es

section Steps

variable {p : Plan} {B : Backend σ Session} {s : State} {f : Findings} {xs ys : List TemplateStep}
  {r : Except Failure Unit} {e : Failure} {w w' : σ} {es fs : List (Event Session)}
  {b m b' : Bench (Chronicle σ Session)}

theorem Progress.eq_map (h : Progress p B s f w xs (.ok ()) es) :
    requests es = xs.map (done p s f) := by
  cases h with
  | whole all => exact all

theorem Progress.trans (first : Progress p B s f w xs (.ok ()) es) (chain : B.Chain w es w')
    (second : Progress p B s f w' ys r fs) : Progress p B s f w (xs ++ ys) r (es ++ fs) := by
  have all := first.eq_map
  cases second with
  | whole all' => exact .whole (by rw [requests_append, all, all', List.map_append])
  | broken before order upTo reached breaks cleared =>
    rw [← List.append_assoc]
    refine .broken (xs ++ before) (by rw [order, List.append_assoc]) ?_ (chain.append reached)
      breaks cleared
    rw [requests_append, all, upTo, List.map_append]

theorem Progress.stop (first : Progress p B s f w xs (.error e) es) (ys : List TemplateStep) :
    Progress p B s f w (xs ++ ys) (.error e) es := by
  cases first with
  | @broken before step after _ _ _ _ _ order upTo reached breaks cleared =>
    have order' : xs ++ ys = before ++ step :: (after ++ ys) := by rw [order]; simp
    exact .broken before order' upTo reached breaks cleared

theorem Advances.trans (first : Advances p B s f xs b (.ok ()) m)
    (second : Advances p B s f ys m r b') : Advances p B s f (xs ++ ys) b r b' := by
  obtain ⟨es, noted, chain, progress⟩ := first
  obtain ⟨fs, noted', chain', progress'⟩ := second
  exact ⟨es ++ fs, by rw [noted', noted, List.append_assoc], chain.append chain',
    progress.trans chain progress'⟩

theorem Advances.stop (first : Advances p B s f xs b (.error e) m) (ys : List TemplateStep) :
    Advances p B s f (xs ++ ys) b (.error e) m := by
  obtain ⟨es, noted, chain, progress⟩ := first
  exact ⟨es, noted, chain, progress.stop ys⟩

theorem done_isRemoval (step : TemplateStep) :
    (done p s f step : Event Session).isRemoval = false := by
  cases step with
  | opening => simp only [done]; split <;> rfl
  | _ => rfl

/-- A step is done if its event is noted. -/
theorem advances_done {step : TemplateStep}
    (noted : b'.world.events = b.world.events ++ [done p s f step])
    (chain : B.Chain b.world.world [done p s f step] b'.world.world) :
    Advances p B s f [step] b (.ok ()) b' :=
  ⟨_, noted, chain, .whole (by simp [requests, done_isRemoval])⟩

/-- The first of some steps fails. -/
theorem advances_broken {step : TemplateStep} {run : List (Event Session)}
    (noted : b'.world.events = b.world.events ++ run)
    (chain : B.Chain b.world.world run b'.world.world)
    (breaks : step.Breaks p B s f b.world.world run e) (rest : List TemplateStep) :
    Advances p B s f (step :: rest) b (.error e) b' := by
  have broken : Progress p B s f b.world.world (step :: rest) (.error e) ([] ++ (run ++ [])) :=
    .broken [] rfl rfl .nil breaks rfl
  rw [List.append_nil, List.nil_append] at broken
  exact ⟨run, noted, chain, broken⟩

end Steps

section Build

variable {p : Plan} {B : Backend σ Session} {b b' : Bench (Chronicle σ Session)}
  {r : Except Failure Unit} {es : List (Event Session)}

/-- Writing the configuration of the template takes the first steps of a build. -/
theorem Written.advances (h : Written p B p.config.templateDatabase b r b')
    (chain : B.Chain b.world.world es b'.world.world)
    (noted : b'.world.events = b.world.events ++ es) :
    ∃ website, (r = .ok () → b'.fixture = workState p b.fixture website) ∧
      ∀ tables osm,
        Advances p B b.fixture ⟨website, tables, osm⟩ (settling p b.fixture) b r b' := by
  have all
      (other : b.fixture.pointsAt (p.config.connection.dsn p.config.templateDatabase) = false) :
      settling p b.fixture = [.directory, .dotenv, .website] := by
    rw [settling, other]
    rfl
  have left (es : List (Event Session)) :
      requests (leaving b.fixture ++ es) = requests es := by
    rw [requests_append, requests_leaving, List.nil_append]
  cases h with
  | unchanged same =>
    have none : settling p b.fixture = [] := by rw [settling, if_pos same]
    refine ⟨"", fun _ => by rw [workState, if_pos same], fun tables osm => ?_⟩
    rw [none]
    exact ⟨[], by simp, .nil, .whole rfl⟩
  | @noDirectory fault b' other state events =>
    obtain rfl := List.append_cancel_left (noted.symm.trans events)
    obtain ⟨m, reached, -⟩ := chain.of_append
    refine ⟨"", nofun, fun tables osm => ⟨_, events, chain, ?_⟩⟩
    rw [all other]
    exact .broken [] rfl (requests_leaving _) reached .directory rfl
  | @noDotenv website fault b' other state events =>
    obtain rfl := List.append_cancel_left (noted.symm.trans events)
    rw [List.append_cons] at events chain
    obtain ⟨m, reached, -⟩ := chain.of_append
    refine ⟨website, nofun, fun tables osm => ⟨_, events, chain, ?_⟩⟩
    rw [all other]
    exact .broken [.directory] rfl (left _) reached .dotenv rfl
  | @notSetUp website e run m b' other state events reached ran =>
    obtain rfl := List.append_cancel_left (noted.symm.trans events)
    rw [← List.append_assoc (leaving b.fixture)] at events chain
    refine ⟨website, nofun, fun tables osm => ⟨_, events, chain, ?_⟩⟩
    rw [all other]
    exact .broken [.directory, .dotenv] rfl (left _) reached (.website ran) rfl
  | @setUp website b' other state events =>
    obtain rfl := List.append_cancel_left (noted.symm.trans events)
    refine ⟨website, fun _ => ?_, fun tables osm => ⟨_, events, chain, ?_⟩⟩
    · rw [state, workState, other]
      rfl
    · rw [all other]
      exact .whole (left _)

/-- The import takes the last steps of a build. -/
theorem Imported.advances {s : State} {website : String} (h : Imported p B b r b')
    (here : b.fixture = workState p s website) (chain : B.Chain b.world.world es b'.world.world)
    (noted : b'.world.events = b.world.events ++ es) :
    ∃ osm, ∀ tables,
      Advances p B s ⟨website, tables, osm⟩ [.osmFile, .osmContent, .filling] b r b' := by
  cases h with
  | noFile state events =>
    obtain rfl := List.append_cancel_left (noted.symm.trans events)
    exact ⟨"", fun tables => advances_broken events chain .osmFile _⟩
  | @notWritten osm fault b' state events =>
    obtain rfl := List.append_cancel_left (noted.symm.trans events)
    refine ⟨osm, fun tables => ⟨_, events, chain, ?_⟩⟩
    obtain _ | ⟨made, -⟩ := chain
    exact .broken [.osmFile] rfl rfl (.single made) .osmContent rfl
  | @ran osm _ run m b' state events reached ran =>
    obtain rfl := List.append_cancel_left (noted.symm.trans events)
    rw [here] at ran
    refine ⟨osm, fun tables => ⟨_, events, chain, ?_⟩⟩
    cases r with
    | ok _ =>
      cases ran with
      | succeeded => exact .whole rfl
    | error e => exact .broken [.osmFile, .osmContent] rfl rfl reached (.filling ran) rfl

theorem buildTemplate_advances (b : Bench (Chronicle σ Session)) :
    (buildTemplate p B.watched p.config.templateDatabase).Gives b fun r b' =>
      b'.fixture.templateReady = b.fixture.templateReady ∧
        ∃ f, Advances p B b.fixture f (building p b.fixture) b r b' := by
  refine Gives.bind (Gives.and (writeConfig_written _ b) ((follows_writeConfig _).watched b)) ?_ ?_
  case refine_2 =>
    rintro e m ⟨written, es, -, reached, noted, -⟩
    obtain ⟨website, -, advances⟩ := written.advances reached noted
    exact ⟨written.ready, ⟨website, [], ""⟩, (advances [] "").stop _⟩
  rintro ⟨⟩ m ⟨written, es, -, reached, noted, -⟩
  obtain ⟨website, settled, advances⟩ := written.advances reached noted
  have here : m.fixture = workState p b.fixture website := settled rfl
  refine (runScript_watched .setup creationArguments m).bind ?_ ?_
  case refine_2 =>
    rintro e m' ⟨state, run, ran, noted, chain⟩
    rw [here] at ran
    refine ⟨by rw [state, written.ready], ⟨website, [], ""⟩, (advances [] "").trans ?_⟩
    exact advances_broken noted chain (.creation ran) _
  rintro ⟨⟩ m' ⟨state, _, ⟨⟩, created, creating⟩
  rw [here] at created creating
  refine Gives.bind (act_watched (.truncated p.config.templateDatabase externalTables)
    fun _ => rfl) ?_ ?_
  case refine_2 =>
    rintro e n ⟨state', noted, happens⟩
    refine ⟨by rw [state', state, written.ready], ⟨website, [], ""⟩, (advances [] "").trans ?_⟩
    have creation : Advances p B b.fixture ⟨website, [], ""⟩ [.creation] m (.ok ()) m' :=
      advances_done created creating
    exact creation.trans (advances_broken noted (.single happens) .truncation _)
  rintro tables n ⟨state', truncated, emptied⟩
  rw [gives_forIn_tell_bind]
  refine (Gives.and (importNothing_imported _) (follows_importNothing.watched _)).mono ?_
  rintro r b' ⟨imported, fs, -, filling, filled, -⟩
  have same : n.fixture = m.fixture := state'.trans state
  obtain ⟨osm, imports⟩ := imported.advances (same.trans here) filling filled
  refine ⟨by rw [imported.state]; exact same ▸ written.ready, ⟨website, tables, osm⟩, ?_⟩
  have creation : Advances p B b.fixture ⟨website, tables, osm⟩ [.creation] m (.ok ()) m' :=
    advances_done created creating
  have truncation : Advances p B b.fixture ⟨website, tables, osm⟩ [.truncation] m' (.ok ()) n :=
    advances_done truncated (.single emptied)
  exact (advances tables osm).trans (creation.trans (truncation.trans (imports tables)))

end Build

/-- What follows the failure of a step. Nothing has to be dropped before a build. -/
def cleanup (p : Plan) (step : TemplateStep) (answer : Except Failure Unit) :
    List (Event Session) :=
  if step = .opening then [] else [.dropped p.config.templateDatabase answer]

/-- The ways in which the set-up of a template ends that is not ready. -/
inductive Attempt (p : Plan) (B : Backend σ Session) (listed : σ → String → Prop)
    (b : Bench (Chronicle σ Session)) :
    Except Failure Unit → Bench (Chronicle σ Session) → Prop
  | found {b'} (reuse : p.config.reuseTemplate = true)
      (ready : b'.fixture.templateReady = true)
      (events : b'.world.events =
        b.world.events ++ [.lookedUp p.config.templateDatabase (.ok true)]) :
      Attempt p B listed b (.ok ()) b'
  | built {f es b'} (ready : b'.fixture.templateReady = true)
      (noted : b'.world.events = b.world.events ++ es)
      (all : requests es = (order p b.fixture).map (done p b.fixture f)) :
      Attempt p B listed b (.ok ()) b'
  /-- The steps before the one that fails are done, and lead to the world in which it fails. -/
  | givenUp {f front before step after m run rest answer e b'}
      (unready : b'.fixture.templateReady = false)
      (noted : b'.world.events = b.world.events ++ (front ++ (run ++ rest)))
      (split : order p b.fixture = before ++ step :: after)
      (upTo : requests front = before.map (done p b.fixture f))
      (reached : B.Chain b.world.world front m)
      (breaks : step.Breaks p B b.fixture f m run e)
      (cleaned : requests rest = cleanup p step answer)
      (gone : step ≠ .opening → answer = .ok () →
        ¬ listed b'.world.world p.config.templateDatabase) :
      Attempt p B listed b (.error e) b'

section SetUp

variable {p : Plan} {B : Backend σ Session} {listed : σ → String → Prop}
  {b m : Bench (Chronicle σ Session)}

theorem opening_not_mem_building (p : Plan) (s : State) : .opening ∉ building p s := by
  unfold building settling
  split <;> simp

/-- A set-up whose first step fails does nothing else. -/
theorem attempt_unopened {event : Event Session} {e : Failure} (state : m.fixture = b.fixture)
    (unready : b.fixture.templateReady = false)
    (noted : m.world.events = b.world.events ++ [event])
    (breaks : TemplateStep.opening.Breaks p B b.fixture ⟨"", [], ""⟩ b.world.world [event] e) :
    Attempt p B listed b (.error e) m := by
  have split : order p b.fixture = [] ++ .opening :: building p b.fixture := rfl
  have noted : m.world.events = b.world.events ++ ([] ++ ([event] ++ [])) := noted
  have cleaned : requests [] = (cleanup p .opening (.ok ()) : List (Event Session)) := rfl
  exact .givenUp (by rwa [state]) noted split rfl .nil breaks cleaned fun other => absurd rfl other

variable (drops : ∀ {name w w'}, B.dropDatabase name w = (.ok (), w') → ¬ listed w' name)

include drops

/-- After the opening, the rest of the order is taken as far as it comes. -/
theorem rebuildTemplate_attempt (state : m.fixture = b.fixture)
    (unready : b.fixture.templateReady = false)
    (opened : ∀ f, Advances p B b.fixture f [.opening] b (.ok ()) m) :
    (rebuildTemplate p B.watched p.config.templateDatabase).Gives m (Attempt p B listed b) := by
  unfold rebuildTemplate
  rw [gives_tell_bind, gives_attempt_bind]
  refine (buildTemplate_advances _).mono ?_
  rintro r n ⟨same, f, build⟩
  rw [state] at build
  cases r with
  | ok _ =>
    obtain ⟨es, noted, -, progress⟩ := (opened f).trans build
    exact .built rfl noted progress.eq_map
  | error e =>
    obtain ⟨first, looked, toOpen, progress⟩ := opened f
    obtain ⟨es, noted, -, broken⟩ := build
    cases broken with
    | @broken before step after front w run rest _ split upTo reached breaks cleared =>
    have begun : step ≠ .opening := by
      rintro rfl
      exact opening_not_mem_building p b.fixture (split ▸ by simp)
    rw [gives_tell_bind, gives_attempt_bind]
    refine Gives.mono (act_watched (.dropped p.config.templateDatabase) fun _ => rfl) ?_
    rintro answer n' ⟨state', dropped, happens⟩
    have attempt {log : List Log.Record} : Attempt p B listed b (.error e) { n' with log } := by
      have noted' : n'.world.events = b.world.events ++ ((first ++ front) ++
          (run ++ (rest ++ [.dropped p.config.templateDatabase answer]))) := by
        rw [dropped, noted, looked]
        simp
      have split' : order p b.fixture = (.opening :: before) ++ step :: after := by
        rw [order, split, List.cons_append]
      have upTo' : requests (first ++ front) =
          (.opening :: before).map (done p b.fixture f) := by
        rw [requests_append, progress.eq_map, upTo, ← List.map_append, List.singleton_append]
      have cleaned : requests (rest ++ [.dropped p.config.templateDatabase answer]) =
          cleanup p step answer := by
        rw [requests_append, cleared, cleanup, if_neg begun]
        rfl
      refine .givenUp ?_ noted' split' upTo' (toOpen.append reached) breaks cleaned fun _ ok => ?_
      · rw [state', same, state, unready]
      · exact drops (ok ▸ happens)
    cases answer with
    | ok _ => exact attempt
    | error second => exact attempt

/-- A set-up ends in no other way, whatever the outside answers. -/
theorem setupTemplate_atomic (unready : b.fixture.templateReady = false) :
    (setupTemplate p B.watched).Gives b (Attempt p B listed b) := by
  unfold setupTemplate
  rw [gives_fixture_bind, if_neg (Bool.eq_false_iff.mp unready)]
  split
  case isTrue reuse =>
    refine Gives.bind (act_watched (.lookedUp p.config.templateDatabase) fun _ => rfl) ?_ ?_
    · rintro found m ⟨state, events, looked⟩
      cases found with
      | true => exact .found reuse rfl events
      | false =>
        refine rebuildTemplate_attempt drops state unready fun f => ?_
        have first : done p b.fixture f .opening =
            (.lookedUp p.config.templateDatabase (.ok false) : Event Session) := if_pos reuse
        exact advances_done (first ▸ events) (first ▸ .single looked)
    · rintro e m ⟨state, events, -⟩
      exact attempt_unopened state unready events (.notLookedUp reuse)
  case isFalse always =>
    refine (dropDatabase_watched _ b).bind ?_ ?_
    · rintro ⟨⟩ m ⟨state, events, dropped⟩
      refine rebuildTemplate_attempt drops state unready fun f => ?_
      have first : done p b.fixture f .opening =
          (.dropped p.config.templateDatabase (.ok ()) : Event Session) := if_neg always
      exact advances_done (first ▸ events) (first ▸ .single dropped)
    · rintro e m ⟨state, events, -⟩
      exact attempt_unopened state unready events (.notDropped (Bool.eq_false_iff.mpr always))

end SetUp

/-- The import fails, and the template is given up. -/
theorem setupTemplate_atomic_import :
    let b : Bench (Chronicle PlainWorld String) :=
      { world := { world := { troubles := List.replicate 8 false ++ [true] } } }
    b.fixture.templateReady = false ∧
      (setupTemplate PlainWorld.plan PlainWorld.backend.watched b).1.isOk = false ∧
      (setupTemplate PlainWorld.plan PlainWorld.backend.watched).Gives b
        (Attempt PlainWorld.plan PlainWorld.backend (fun w name => name ∈ w.databases) b) :=
  ⟨rfl, by decide +kernel, setupTemplate_atomic PlainWorld.not_mem_of_drop rfl⟩

end Fixture

end Testbed
