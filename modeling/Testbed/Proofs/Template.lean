import Testbed.Proofs.Website

/-!
# Building a template

A template is completely built once all steps of its build have succeeded in a row, and it is what
every script of the build was pointed at. It is said here how the import, the build and the whole
set-up of a template end, whatever the outside answers.
-/

namespace Testbed.Fixture

open Work

variable {σ Session α : Type} {p : Plan} {B : Backend σ Session}
  {b : Bench (Chronicle σ Session)}

/-- The ways in which the import of no data ends. -/
inductive Imported (p : Plan) (B : Backend σ Session) (b : Bench (Chronicle σ Session)) :
    Except Failure Unit → Bench (Chronicle σ Session) → Prop
  | noFile {fault b'} (state : b'.fixture = b.fixture)
      (events : b'.world.events =
        b.world.events ++ [.madeFile osmStem osmEnding (.error fault)]) :
      Imported p B b (.error (.osmFile fault)) b'
  | notWritten {osm fault b'} (state : b'.fixture = b.fixture)
      (events : b'.world.events =
        b.world.events ++ [.madeFile osmStem osmEnding (.ok osm),
          .wrote osm emptyOsm (.error fault), .removedFile osm]) :
      Imported p B b (.error (.osmContent fault)) b'
  | ran {osm r run m b'} (state : b'.fixture = b.fixture)
      (events : b'.world.events =
        b.world.events ++ ([.madeFile osmStem osmEnding (.ok osm), .wrote osm emptyOsm (.ok ())] ++
          (run ++ [.removedFile osm])))
      (reached : B.Chain b.world.world
        [.madeFile osmStem osmEnding (.ok osm), .wrote osm emptyOsm (.ok ())] m)
      (ran : Ran p B m .setup (p.invocation b.fixture .setup (importArguments osm)) r run) :
      Imported p B b r b'

/-- The import of no data ends in no other way. -/
theorem importNothing_imported (b : Bench (Chronicle σ Session)) :
    (importNothing p B.watched).Gives b (Imported p B b) := by
  unfold Gives importNothing
  rw [bind_apply]
  rcases made : B.watched.makeFile osmStem osmEnding b.world with ⟨fault | osm, w⟩
  · rw [doing_of_error made]
    exact .noFile rfl (happens_watched (e := .madeFile _ _ (.error fault)) made).2
  obtain ⟨happens, noted⟩ := happens_watched (e := .madeFile _ _ (.ok osm)) made
  simp only [doing_of_ok made, finally_apply, bind_apply, change_apply]
  rcases wrote : B.watched.writeFile osm emptyOsm w with ⟨fault | ⟨⟩, w'⟩
  · have noted' := (happens_watched (e := .wrote _ _ (.error fault)) wrote).2
    simp only [doing_of_error wrote]
    refine @Imported.notWritten σ Session p B b osm fault _ rfl ?_
    simp [Backend.watched, Chronicle.marking, noted', noted]
  · obtain ⟨happens', noted'⟩ := happens_watched (e := .wrote _ _ (.ok ())) wrote
    simp only [doing_of_ok wrote]
    obtain ⟨state, run, ran, events, -⟩ :=
      runScript_watched (p := p) (B := B) .setup (importArguments osm) { b with world := w' }
    refine @Imported.ran σ Session p B b osm _ run _ _ state ?_
      (.cons happens (.single happens')) ran
    change (runScript p B.watched .setup (importArguments osm)
      { b with world := w' }).2.world.events ++ [.removedFile osm] = _
    rw [events, noted', noted]
    simp

theorem Imported.state {r : Except Failure Unit} {b' : Bench (Chronicle σ Session)}
    (h : Imported p B b r b') : b'.fixture = b.fixture := by
  cases h with
  | noFile state | notWritten state | ran state => exact state

/-- All steps of a build after the website, in order and without a failure. Every script runs in one
website and with the variables of the template. -/
inductive CompleteBuild (p : Plan) : List (Event Session) → Prop
  | intro {website tables osm} : CompleteBuild p
      [.ranScript (p.setupRun website p.config.templateDatabase creationArguments) (.ok ()),
        .truncated p.config.templateDatabase externalTables (.ok tables),
        .madeFile osmStem osmEnding (.ok osm),
        .wrote osm emptyOsm (.ok ()),
        .ranScript (p.setupRun website p.config.templateDatabase (importArguments osm)) (.ok ()),
        .removedFile osm]

/-- Whether the setup script was run to make a database with its schema. -/
def isCreation (p : Plan) : Event Session → Bool
  | .ranScript i _ => i.command = p.command .setup creationArguments
  | _ => false

/-- A build that was begun in the world `w` and broke. Until the database was made, there was nothing
but the website. -/
structure BrokenBuild (p : Plan) (B : Backend σ Session) (w : σ) (attempt : List (Event Session)) :
    Prop where
  broken : Broken p B w attempt
  ordered : (∃ event ∈ attempt, isCreation p event = true) ∨ ∀ event ∈ attempt, Settling p event

/-- The ways in which the build of the template ends. -/
inductive TemplateBuilt (p : Plan) (B : Backend σ Session) (b : Bench (Chronicle σ Session)) :
    Except Failure Unit → Bench (Chronicle σ Session) → Prop
  | complete {front steps b'}
      (ready : b'.fixture.templateReady = b.fixture.templateReady)
      (events : b'.world.events = b.world.events ++ (front ++ steps))
      (complete : CompleteBuild p steps) : TemplateBuilt p B b (.ok ()) b'
  | broken {attempt e b'}
      (ready : b'.fixture.templateReady = b.fixture.templateReady)
      (events : b'.world.events = b.world.events ++ attempt)
      (failed : BrokenBuild p B b.world.world attempt) : TemplateBuilt p B b (.error e) b'

theorem isCreation_setupRun (website database : String) (answer : Except Failure Unit) :
    isCreation p (.ranScript (p.setupRun website database creationArguments) answer :
      Event Session) = true :=
  decide_eq_true rfl

/-- The import ends a build of which all steps before have succeeded. -/
theorem Imported.built {website : String} {tables : List String} {front : List (Event Session)}
    {r : Except Failure Unit} {n b' : Bench (Chronicle σ Session)} (imported : Imported p B n r b')
    (unchanged : n.fixture.templateReady = b.fixture.templateReady)
    (invocation : ∀ args, p.invocation n.fixture .setup args =
      p.setupRun website p.config.templateDatabase args)
    (before : n.world.events = b.world.events ++ (front ++
      [.ranScript (p.setupRun website p.config.templateDatabase creationArguments) (.ok ()),
        .truncated p.config.templateDatabase externalTables (.ok tables)]))
    (chain : B.Chain b.world.world (front ++
      [.ranScript (p.setupRun website p.config.templateDatabase creationArguments) (.ok ()),
        .truncated p.config.templateDatabase externalTables (.ok tables)]) n.world.world) :
    TemplateBuilt p B b r b' := by
  have ready : b'.fixture.templateReady = b.fixture.templateReady := by
    rw [imported.state, unchanged]
  have created {more : List (Event Session)} : ∃ event ∈ (front ++
      [.ranScript (p.setupRun website p.config.templateDatabase creationArguments) (.ok ()),
        .truncated p.config.templateDatabase externalTables (.ok tables)]) ++ more,
      isCreation p event = true :=
    ⟨_, List.mem_append_left _ (List.mem_append_right _ (.head _)), isCreation_setupRun ..⟩
  cases imported with
  | noFile _ events =>
    refine .broken ready (by rw [events, before, List.append_assoc]) ⟨.inl ?_, .inl created⟩
    exact ⟨_, List.mem_append_right _ (.head _), rfl⟩
  | notWritten _ events =>
    refine .broken ready (by rw [events, before, List.append_assoc]) ⟨.inl ?_, .inl created⟩
    exact ⟨_, List.mem_append_right _ (.tail _ (.head _)), rfl⟩
  | @ran osm _ run _ _ _ events reached ran =>
    rw [before] at events
    rw [invocation] at ran
    cases r with
    | error e =>
      refine .broken ready (by rw [events, List.append_assoc]) ⟨?_, .inl created⟩
      exact ((ran.broken.append _).after reached).after chain
    | ok _ =>
      cases ran with
      | succeeded =>
        have steps := @CompleteBuild.intro Session p website tables osm
        exact @TemplateBuilt.complete σ Session p B b front _ b' ready (by simp [events]) steps

theorem State.AtHome.invocation {s : State} {database : String} (h : s.AtHome p database) :
    ∃ website, ∀ args, p.invocation s .setup args = p.setupRun website database args := by
  obtain ⟨someWebsite, dictionary⟩ := h
  obtain ⟨website, here⟩ := Option.isSome_iff_exists.mp someWebsite
  exact ⟨website, fun _ => by
    simp [Plan.invocation, Plan.setupRun, State.childVariables, here, dictionary]⟩

theorem act_watched {a : Action (Chronicle σ Session) α} (event : Except Failure α → Event Session)
    (happens : ∀ c, B.watched.Happens c (event (a c).1) (a c).2) :
    (act a).Gives b fun r b' =>
      b'.fixture = b.fixture ∧ b'.world.events = b.world.events ++ [event r] ∧
        B.Happens b.world.world (event r) b'.world.world :=
  ⟨rfl, (happens_watched (happens b.world)).symm⟩

theorem dropDatabase_watched (name : String) (b : Bench (Chronicle σ Session)) :
    (dropDatabase B.watched name).Gives b fun r b' =>
      b'.fixture = b.fixture ∧ b'.world.events = b.world.events ++ [.dropped name r] ∧
        B.Happens b.world.world (.dropped name r) b'.world.world := by
  rw [dropDatabase, gives_tell_bind]
  exact act_watched (.dropped name) fun _ => rfl

/-- A build ends in no other way, wherever it breaks. -/
theorem buildTemplate_built (configured : b.fixture.Configured p) :
    (buildTemplate p B.watched p.config.templateDatabase).Gives b (TemplateBuilt p B b) := by
  refine Gives.bind (Gives.and (writeConfig_written _ b) ((follows_writeConfig _).watched b)) ?_ ?_
  case refine_2 =>
    rintro e m ⟨written, front, -, -, noted, settling⟩
    obtain ⟨attempt, events, broken⟩ := written.failed
    obtain rfl := List.append_cancel_left (events.symm.trans noted)
    exact .broken written.ready events ⟨broken, .inr settling⟩
  rintro ⟨⟩ m ⟨written, front, -, reached, fronted, settling⟩
  obtain ⟨website, invocation⟩ := (written.atHome configured).invocation
  refine (runScript_watched .setup creationArguments m).bind ?_ ?_
  case refine_2 =>
    rintro e m' ⟨state, run, ran, created, -⟩
    have events : m'.world.events = b.world.events ++ (front ++ run) := by
      rw [created, fronted, List.append_assoc]
    refine .broken (by rw [state, written.ready]) events ⟨ran.broken.after reached, ?_⟩
    cases ran with
    | lost => exact .inr (by simpa using settling)
    | failed =>
      exact .inl ⟨_, List.mem_append_right _ (.head _), invocation _ ▸ isCreation_setupRun ..⟩
  rintro ⟨⟩ m' ⟨state, _, ⟨⟩, created, reached'⟩
  refine Gives.bind (act_watched (.truncated p.config.templateDatabase externalTables)
    fun _ => rfl) ?_ ?_
  case refine_2 =>
    rintro e n ⟨state', truncated, -⟩
    have events : n.world.events = b.world.events ++ (front ++
        [.ranScript (p.setupRun website p.config.templateDatabase creationArguments) (.ok ()),
          .truncated p.config.templateDatabase externalTables (.error e)]) := by
      rw [truncated, created, fronted, invocation]
      simp
    refine .broken (by rw [state', state, written.ready]) events ⟨.inl ?_, .inl ?_⟩
    · exact ⟨_, List.mem_append_right _ (.tail _ (.head _)), rfl⟩
    · exact ⟨_, List.mem_append_right _ (.head _), isCreation_setupRun ..⟩
  rintro tables n ⟨state', truncated, emptied⟩
  rw [gives_forIn_tell_bind]
  refine (importNothing_imported _).mono fun r b' imported => ?_
  have same : n.fixture = m.fixture := state'.trans state
  rw [invocation] at created reached'
  have before : n.world.events = b.world.events ++ (front ++
      [.ranScript (p.setupRun website p.config.templateDatabase creationArguments) (.ok ()),
        .truncated p.config.templateDatabase externalTables (.ok tables)]) := by
    rw [truncated, created, fronted]
    simp
  exact imported.built (by rw [same, written.ready]) (same ▸ invocation) before
    (reached.append (reached'.append (.single emptied)))

/-- What comes before a build: no template was found, or an old one was dropped. -/
def opening (p : Plan) : List (Event Session) :=
  if p.config.reuseTemplate then [.lookedUp p.config.templateDatabase (.ok false)]
  else [.dropped p.config.templateDatabase (.ok ())]

structure FailedBuild (p : Plan) (B : Backend σ Session) (w : σ) (attempt : List (Event Session)) :
    Prop extends BrokenBuild p B w attempt where
  building : ∀ event ∈ attempt, Building p event

/-- The ways in which the set-up of the template ends. -/
inductive TemplateSetUp (p : Plan) (B : Backend σ Session) (b : Bench (Chronicle σ Session)) :
    Except Failure Unit → Bench (Chronicle σ Session) → Prop
  | already (ready : b.fixture.templateReady = true) : TemplateSetUp p B b (.ok ()) b
  | notLookedUp {e b'} (reuse : p.config.reuseTemplate = true)
      (ready : b'.fixture.templateReady = false)
      (events : b'.world.events =
        b.world.events ++ [.lookedUp p.config.templateDatabase (.error e)]) :
      TemplateSetUp p B b (.error e) b'
  | found {b'} (reuse : p.config.reuseTemplate = true)
      (ready : b'.fixture.templateReady = true)
      (events : b'.world.events =
        b.world.events ++ [.lookedUp p.config.templateDatabase (.ok true)]) :
      TemplateSetUp p B b (.ok ()) b'
  | notDropped {e b'} (always : p.config.reuseTemplate = false)
      (ready : b'.fixture.templateReady = false)
      (events : b'.world.events =
        b.world.events ++ [.dropped p.config.templateDatabase (.error e)]) :
      TemplateSetUp p B b (.error e) b'
  | built {front steps b'} (ready : b'.fixture.templateReady = true)
      (events : b'.world.events = b.world.events ++ (opening p ++ (front ++ steps)))
      (complete : CompleteBuild p steps) : TemplateSetUp p B b (.ok ()) b'
  | failed {attempt answer e m b'} (ready : b'.fixture.templateReady = false)
      (events : b'.world.events = b.world.events ++
        (opening p ++ (attempt ++ [.dropped p.config.templateDatabase answer])))
      (reached : B.Chain b.world.world (opening p) m)
      (build : FailedBuild p B m attempt) : TemplateSetUp p B b (.error e) b'

/-- A set-up that fails has met a failure. -/
theorem TemplateSetUp.broken {e : Failure} {b b' : Bench (Chronicle σ Session)}
    (h : TemplateSetUp p B b (.error e) b') :
    ∃ es, b'.world.events = b.world.events ++ es ∧ Broken p B b.world.world es := by
  cases h with
  | notLookedUp _ _ events | notDropped _ _ events =>
    exact ⟨_, events, .inl ⟨_, .head _, rfl⟩⟩
  | failed _ events reached build => exact ⟨_, events, (build.broken.append _).after reached⟩

theorem rebuildTemplate_rebuilt (configured : b.fixture.Configured p) :
    (rebuildTemplate p B.watched p.config.templateDatabase).Gives b fun r b' =>
      match r with
      | .ok () => b'.fixture.templateReady = true ∧ ∃ front steps,
          b'.world.events = b.world.events ++ (front ++ steps) ∧ CompleteBuild p steps
      | .error _ => b'.fixture.templateReady = b.fixture.templateReady ∧ ∃ attempt answer,
          b'.world.events =
            b.world.events ++ (attempt ++ [.dropped p.config.templateDatabase answer]) ∧
          FailedBuild p B b.world.world attempt := by
  unfold rebuildTemplate
  rw [gives_tell_bind, gives_attempt_bind]
  refine Gives.mono (Gives.and (buildTemplate_built ?_) (follows_buildTemplate.watched _)) ?_
  · exact configured
  rintro _ m ⟨built, es, -, -, noted, building⟩
  cases built with
  | @complete front steps _ ready events complete => exact ⟨rfl, front, steps, events, complete⟩
  | @broken attempt e _ ready events failed =>
    obtain rfl := List.append_cancel_left (events.symm.trans noted)
    rw [gives_tell_bind, gives_attempt_bind]
    refine Gives.mono (act_watched (.dropped p.config.templateDatabase) fun _ => rfl) ?_
    rintro answer n ⟨state, dropped, -⟩
    have both : n.fixture.templateReady = b.fixture.templateReady ∧ ∃ attempt answer,
        n.world.events =
          b.world.events ++ (attempt ++ [.dropped p.config.templateDatabase answer]) ∧
        FailedBuild p B b.world.world attempt :=
      ⟨by rw [state, ready], attempt, answer, by rw [dropped, events, List.append_assoc],
        failed, building⟩
    cases answer with
    | ok _ => exact both
    | error _ => exact both

/-- A build whose opening has happened ends the whole set-up. -/
theorem setUp_of_opening {m : Bench (Chronicle σ Session)} (configured : m.fixture.Configured p)
    (ready : m.fixture.templateReady = false)
    (opened : m.world.events = b.world.events ++ opening p)
    (reached : B.Chain b.world.world (opening p) m.world.world) :
    (rebuildTemplate p B.watched p.config.templateDatabase).Gives m (TemplateSetUp p B b) := by
  refine (rebuildTemplate_rebuilt configured).mono fun r b' rebuilt => ?_
  cases r with
  | ok _ =>
    obtain ⟨ready, front, steps, events, complete⟩ := rebuilt
    exact .built ready (by rw [events, opened, List.append_assoc]) complete
  | error e =>
    obtain ⟨same, attempt, answer, events, build⟩ := rebuilt
    exact .failed (same.trans ready) (by rw [events, opened, List.append_assoc]) reached build

/-- The set-up of the template ends in no other way, whatever the outside answers. -/
theorem setupTemplate_setUp (configured : b.fixture.Configured p) :
    (setupTemplate p B.watched).Gives b (TemplateSetUp p B b) := by
  unfold setupTemplate
  rw [gives_fixture_bind]
  split
  case isTrue ready => exact .already ready
  case isFalse unready =>
  have unready := Bool.eq_false_iff.mpr unready
  split
  case isTrue reuse =>
    refine Gives.bind (act_watched (.lookedUp p.config.templateDatabase) fun _ => rfl) ?_ ?_
    · rintro found m ⟨state, events, looked⟩
      cases found with
      | true => exact .found reuse rfl events
      | false =>
        have first : (opening p : List (Event Session)) =
            [.lookedUp p.config.templateDatabase (.ok false)] := if_pos reuse
        exact setUp_of_opening (by rwa [state]) (by rwa [state]) (first ▸ events)
          (first ▸ .single looked)
    · rintro e m ⟨state, events, -⟩
      exact .notLookedUp reuse (by rwa [state]) events
  case isFalse always =>
    refine (dropDatabase_watched _ b).bind ?_ ?_
    · rintro ⟨⟩ m ⟨state, events, dropped⟩
      have first : (opening p : List (Event Session)) =
          [.dropped p.config.templateDatabase (.ok ())] := if_neg always
      exact setUp_of_opening (by rwa [state]) (by rwa [state]) (first ▸ events)
        (first ▸ .single dropped)
    · rintro e m ⟨state, events, -⟩
      exact .notDropped (Bool.eq_false_iff.mpr always) (by rwa [state]) events

end Testbed.Fixture
