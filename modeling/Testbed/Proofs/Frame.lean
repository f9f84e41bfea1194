import Testbed.Proofs.Course

/-!
# What each operation may ask for

Every operation is a course whose events are among those that the operation allows. So a database
is only dropped, made or opened where the operation names it, and a script is only run with the
arguments that the operation gives it.
-/

namespace Testbed.Fixture

open Work

/-! ## Kinds of events -/

section Kinds

variable {Session : Type} (p : Plan)

/-- The events by which a website is made, set up and left. -/
def Settling : Event Session → Prop
  | .madeDirectory stem _ => stem = websiteStem
  | .wrote path content _ =>
    ∃ website database,
      path = dotenvFile website ∧ content = Dotenv.render (p.variablesOf database)
  | .removedDirectory _ => True
  | .ranScript i _ => i.command = p.command .setup websiteArguments
  | _ => False

theorem settling_wrote (website database : String) (answer : Except SystemFault Unit) :
    Settling p (.wrote (dotenvFile website) (Dotenv.render (p.variablesOf database)) answer :
      Event Session) :=
  ⟨website, database, rfl, rfl⟩

/-- The events by which the template is filled, apart from those of its website. -/
def Filling : Event Session → Prop
  | .ranScript i _ =>
    i.command = p.command .setup creationArguments ∨
      ∃ osm, i.command = p.command .setup (importArguments osm)
  | .truncated database candidates _ =>
    database = p.config.templateDatabase ∧ candidates = externalTables
  | .madeFile stem ending _ => stem = osmStem ∧ ending = osmEnding
  | .wrote _ content _ => content = emptyOsm
  | .removedFile _ => True
  | _ => False

def Building (e : Event Session) : Prop :=
  Settling p e ∨ Filling p e

def Preparing (e : Event Session) : Prop :=
  Building p e ∨ match e with
    | .lookedUp name _ | .dropped name _ => name = p.config.templateDatabase
    | _ => False

/-- The events by which the scenario database is made from the template. -/
def Copying : Event Session → Prop
  | .dropped name _ => name = p.config.testDatabase
  | .created name template _ =>
    name = p.config.testDatabase ∧ template = p.config.templateDatabase
  | .opened name _ => name = p.config.testDatabase
  | _ => False

/-- The events by which the scenario database is given up. -/
def Clearing (session : Option Session) : Event Session → Prop
  | .closed s => session = some s
  | .dropped name _ => name = p.config.testDatabase ∧ p.config.keepTestDatabase = false
  | _ => False

end Kinds

/-- Pointing the application somewhere does not need the server. -/
theorem settling_isDatabase {Session : Type} {p : Plan} {e : Event Session} (h : Settling p e) :
    e.isDatabase = false := by
  cases e <;> first | rfl | cases h

/-! ## Work that follows a course -/

variable {σ Session α β : Type} {p : Plan} {B : Backend σ Session}
  {Φ Ψ : Event Session → Prop}

/-- From every bench the work is a course, and all its events satisfy `Φ`. -/
def Follows (p : Plan) (B : Backend σ Session) (Φ : Event Session → Prop) (w : Work σ α) : Prop :=
  ∀ b, ∃ es, Course p B b es (w b).2 ∧ ∀ e ∈ es, Φ e

theorem Follows.mono {w : Work σ α} (h : Follows p B Φ w) (imp : ∀ e, Φ e → Ψ e) :
    Follows p B Ψ w := by
  intro b
  obtain ⟨es, course, all⟩ := h b
  exact ⟨es, course, fun e he => imp e (all e he)⟩

/-- The events of a course are those that a watcher writes down. -/
theorem Follows.watched {w : Work (Chronicle σ Session) α} (h : Follows p B.watched Φ w)
    (b : Bench (Chronicle σ Session)) :
    w.Gives b fun _ b' => ∃ es, Course p B.watched b es b' ∧
      B.Chain b.world.world es b'.world.world ∧ b'.world.events = b.world.events ++ es ∧
      ∀ e ∈ es, Φ e := by
  obtain ⟨es, course, all⟩ := h b
  exact ⟨es, course, (chain_watched course.chain).1, (chain_watched course.chain).2, all⟩

/-- What a watcher has written down has happened. -/
theorem Follows.chain {w : Work (Chronicle σ Session) α} (h : Follows p B.watched Φ w)
    (b : Bench (Chronicle σ Session)) {es : List (Event Session)}
    (noted : (w b).2.world.events = b.world.events ++ es) :
    B.Chain b.world.world es (w b).2.world.world := by
  obtain ⟨fs, -, chain, noted', -⟩ := h.watched b
  rwa [List.append_cancel_left (noted.symm.trans noted')]

theorem closed_follows (p : Plan) (B : Backend σ Session) (Φ : Event Session → Prop) :
    Closed (Follows p B Φ) where
  pure _ _ := ⟨[], .nil, by simp⟩
  throw _ _ := ⟨[], .nil, by simp⟩
  fixture _ := ⟨[], .nil, by simp⟩
  look _ _ := ⟨[], .nil, by simp⟩
  tell _ _ := ⟨[], .single (.told _), by simp⟩
  bind {_ _ w f} hw hf b := by
    obtain ⟨es, first, hes⟩ := hw b
    rw [bind_apply]
    rcases h : w b with ⟨e | a, m⟩ <;> rw [h] at first
    · exact ⟨es, first, hes⟩
    · obtain ⟨fs, second, hfs⟩ := hf a m
      exact ⟨es ++ fs, first.append second, List.forall_mem_append.mpr ⟨hes, hfs⟩⟩
  attempt hw := hw
  finally_ {_ w _} hw hl b := by
    obtain ⟨es, first, hes⟩ := hw b
    obtain ⟨fs, second, hfs⟩ := hl (w b).2
    exact ⟨es ++ fs, first.append second, List.forall_mem_append.mpr ⟨hes, hfs⟩⟩

theorem follows_step {w : Work σ α} (h : ∀ b, ∃ es, Step p B b es (w b).2 ∧ ∀ e ∈ es, Φ e) :
    Follows p B Φ w := by
  intro b
  obtain ⟨es, step, all⟩ := h b
  exact ⟨es, .single step, all⟩

theorem follows_tell (r : Log.Record) : Follows p B Φ (tell r) :=
  follows_step fun _ => ⟨[], .told r, by simp⟩

theorem follows_found :
    Follows p B Φ (setFixture fun s => { s with templateReady := true }) :=
  follows_step fun _ => ⟨[], .found, by simp⟩

/-- A request that is no script is a step, whatever the answer. -/
theorem follows_act {a : Action σ α} (event : Except Failure α → Event Session)
    (happens : ∀ w, B.Happens w (event (a w).1) (a w).2)
    (allowed : ∀ x, (event x).isPlain = true ∧ Φ (event x)) : Follows p B Φ (act a) :=
  follows_step fun b =>
    ⟨[event (a b.world).1], .asked (allowed _).1 (happens _), by simpa using (allowed _).2⟩

theorem follows_doing {ε : Type} {reason : ε → Failure} {a : σ → Except ε α × σ}
    (event : Except ε α → Event Session) (happens : ∀ w, B.Happens w (event (a w).1) (a w).2)
    (allowed : ∀ x, (event x).isPlain = true ∧ Φ (event x)) : Follows p B Φ (doing reason a) :=
  follows_step fun b =>
    ⟨[event (a b.world).1], .asked (allowed _).1 (happens _), by simpa using (allowed _).2⟩

theorem follows_change {f : σ → σ} (event : Event Session)
    (happens : ∀ w, B.Happens w event (f w)) (quiet : event.isPlain = true) (allowed : Φ event) :
    Follows p B Φ (change f) :=
  follows_step fun _ => ⟨[event], .asked quiet (happens _), by simpa using allowed⟩

theorem workingDirectory_apply (b : Bench σ) :
    workingDirectory p B b = (.ok (p.directory (B.directoryFault b.world)), b) :=
  rfl

/-- A script without a path is not run. -/
theorem runScript_of_lost {b : Bench σ} {reason : SystemFault}
    (lost : p.lost? B b.world = some reason) (script : Script.Name) (args : Script.Arguments) :
    runScript p B script args b = (.error (.scriptPath ⟨script.text, reason⟩), b) := by
  have line := p.commandLine_eq B b.world script args
  rw [lost] at line
  simp only [runScript, bind_apply, workingDirectory_apply, line, throw_apply]

theorem runScript_apply {b : Bench σ} (found : p.lost? B b.world = none) (script : Script.Name)
    (args : Script.Arguments) : runScript p B script args b =
      ((B.runScript (p.invocation b.fixture script args) b.world).1.2.mapError (.script script),
        { b with
          log := b.log ++ (B.runScript (p.invocation b.fixture script args) b.world).1.1
          world := (B.runScript (p.invocation b.fixture script args) b.world).2 }) := by
  rcases ran : B.runScript (p.invocation b.fixture script args) b.world with ⟨⟨records, answer⟩, w⟩
  have line := p.commandLine_eq B b.world script args
  rw [found] at line
  rw [Plan.invocation] at ran
  simp only [runScript, bind_apply, workingDirectory_apply, line, fixture_apply, attempt_apply,
    running_apply, ran]
  cases answer with
  | ok => rfl
  | error => rfl

theorem runScript_fixture (script : Script.Name) (args : Script.Arguments) (b : Bench σ) :
    (runScript p B script args b).2.fixture = b.fixture := by
  cases lost : p.lost? B b.world with
  | none => rw [runScript_apply lost]
  | some reason => rw [runScript_of_lost lost]

theorem leaveWebsite_apply (b : Bench σ) :
    leaveWebsite B b =
      (.ok (), match b.fixture.website with
        | some path =>
          { b with fixture := b.fixture.homeless, world := B.removeDirectory path b.world }
        | none => b) := by
  simp only [leaveWebsite, bind_apply, fixture_apply]
  cases b.fixture.website <;> rfl

theorem makeWebsite_apply (environment : Dictionary) (b : Bench σ) :
    makeWebsite B environment b =
      match B.makeDirectory websiteStem b.world with
      | (.error e, w) => (.error (.websiteDirectory e), { b with world := w })
      | (.ok path, w) =>
        match B.writeFile (dotenvFile path) (Dotenv.render environment) w with
        | (.error e, w) =>
          (.error (.dotenv (dotenvFile path) e), { b with world := B.removeDirectory path w })
        | (.ok (), w) => (.ok path, { b with world := w }) := by
  simp only [makeWebsite, bind_apply, dotenvFile]
  rcases made : B.makeDirectory websiteStem b.world with ⟨e | path, w⟩
  · rw [doing_of_error made]
  · simp only [doing_of_ok made, attempt_apply]
    rcases wrote : B.writeFile (Path.join path ".env") (Dotenv.render environment) w with
      ⟨e | ⟨⟩, w'⟩
    · rw [doing_of_error wrote]
      rfl
    · rw [doing_of_ok wrote]
      rfl

/-! ## The operations -/

theorem follows_runScript {script : Script.Name} {args : Script.Arguments}
    (allowed : ∀ i answer, i.command = p.command script args → Φ (.ranScript i answer)) :
    Follows p B Φ (runScript p B script args) := by
  intro b
  cases lost : p.lost? B b.world with
  | none =>
    rw [runScript_apply lost]
    exact ⟨_, .single (.ran rfl), by simpa using allowed _ _ rfl⟩
  | some reason =>
    rw [runScript_of_lost lost]
    exact ⟨[], .nil, by simp⟩

theorem follows_leaveWebsite : Follows p B (Settling p) (leaveWebsite B) := by
  intro b
  rw [leaveWebsite_apply]
  cases h : b.fixture.website with
  | none => exact ⟨[], .nil, by simp⟩
  | some path => exact ⟨[_], .single (.left h), by simp [Settling]⟩

theorem leaveWebsite_homeless (b : Bench σ) : (leaveWebsite B b).2.fixture.website = none := by
  rw [leaveWebsite_apply]
  cases h : b.fixture.website with
  | none => exact h
  | some path => rfl

/-- The old website is left before a new one is made. It is told of, and the fixture moves there. -/
theorem follows_settle {database : String} {record : String → Log.Record} {rest : Work σ α}
    (h : Follows p B (Settling p) rest) :
    Follows p B (Settling p) (do
      leaveWebsite B
      let path ← makeWebsite B (p.variablesOf database)
      tell (record path)
      setFixture fun s => s.settled (p.variablesOf database) path
      rest) := by
  intro b
  obtain ⟨es, leaving, left⟩ := follows_leaveWebsite (p := p) (B := B) b
  have homeless := leaveWebsite_homeless (B := B) b
  have through : ∀ {fs b'}, Course p B (leaveWebsite B b).2 fs b' → (∀ e ∈ fs, Settling p e) →
      ∃ es, Course p B b es b' ∧ ∀ e ∈ es, Settling p e := fun course all =>
    ⟨_, leaving.append course, List.forall_mem_append.mpr ⟨left, all⟩⟩
  rw [bind_apply, leaveWebsite_apply]
  rw [leaveWebsite_apply] at homeless through
  generalize (match b.fixture.website with
    | some path =>
      { b with fixture := b.fixture.homeless, world := B.removeDirectory path b.world }
    | none => b) = m at homeless through
  simp only [bind_apply, makeWebsite_apply]
  rcases made : B.makeDirectory websiteStem m.world with ⟨fault | path, w⟩
  · exact through (.single (.noDirectory homeless made)) (by simp [Settling])
  rcases wrote : B.writeFile (dotenvFile path) (Dotenv.render (p.variablesOf database)) w with
    ⟨fault | ⟨⟩, w'⟩
  · simp only [wrote]
    refine through (.single (.noDotenv homeless made wrote)) ?_
    refine List.forall_mem_cons.mpr ⟨rfl, ?_⟩
    exact List.forall_mem_cons.mpr ⟨settling_wrote p path database _, by simp [Settling]⟩
  · simp only [wrote, tell_apply, setFixture_apply]
    obtain ⟨es, course, all⟩ := h
      { fixture := m.fixture.settled (p.variablesOf database) path
        log := m.log ++ [record path]
        world := w' }
    refine through (.cons (.settled (record path) homeless made wrote) course) ?_
    refine List.forall_mem_cons.mpr ⟨rfl, ?_⟩
    exact List.forall_mem_cons.mpr ⟨settling_wrote p path database _, all⟩

theorem follows_writeConfig (database : String) :
    Follows p B (Settling p) (writeConfig p B database) := by
  have closed := closed_follows p B (Settling p)
  refine closed.bind closed.fixture fun s => ?_
  split
  · exact closed.tell (by decide)
  refine follows_settle ?_
  refine closed.bind (closed.attempt (follows_runScript fun _ _ h => ?_)) fun
    | .ok () => closed.pure ()
    | .error e => closed.bind follows_leaveWebsite fun _ => closed.throw e
  exact h

theorem follows_drop {name : String} (allowed : ∀ answer, Φ (.dropped name answer)) :
    Follows p B Φ (act (B.dropDatabase name)) :=
  follows_act (.dropped name) (fun _ => rfl) fun answer => ⟨rfl, allowed answer⟩

theorem follows_importNothing : Follows p B (Filling p) (importNothing p B) := by
  have closed := closed_follows p B (Filling p)
  refine closed.bind (follows_doing (.madeFile osmStem osmEnding) (fun _ => rfl)
    fun _ => ⟨rfl, rfl, rfl⟩) fun path => ?_
  refine closed.finally_ (closed.bind ?_ fun _ => ?_) ?_
  · exact follows_doing (.wrote path emptyOsm) (fun _ => rfl) fun _ => ⟨rfl, rfl⟩
  · exact follows_runScript fun _ _ h => .inr ⟨path, h⟩
  · exact follows_change (.removedFile path) (fun _ => rfl) rfl trivial

theorem follows_buildTemplate :
    Follows p B (Building p) (buildTemplate p B p.config.templateDatabase) :=
  closed_buildTemplate (closed_follows p B (Building p))
    ((follows_writeConfig _).mono fun _ => .inl)
    (follows_runScript fun _ _ h => .inr (.inl h))
    (follows_act (.truncated p.config.templateDatabase externalTables) (fun _ => rfl)
      fun _ => ⟨rfl, .inr ⟨rfl, rfl⟩⟩)
    (follows_importNothing.mono fun _ => .inr)

theorem follows_setupTemplate : Follows p B (Preparing p) (setupTemplate p B) :=
  closed_setupTemplate (closed_follows p B (Preparing p)) follows_tell
    (follows_act (.lookedUp p.config.templateDatabase) (fun _ => rfl) fun _ => ⟨rfl, .inr rfl⟩)
    (follows_drop fun _ => .inr rfl) follows_found (follows_buildTemplate.mono fun _ => .inl)

theorem follows_teardown (session : Option Session) :
    Follows p B (Clearing p session) (teardown p B session) :=
  closed_teardown (closed_follows p B (Clearing p session))
    (fun s h => follows_change (.closed s) (fun _ => rfl) rfl h)
    fun keep => follows_drop fun _ => ⟨rfl, keep⟩

theorem follows_copyTemplate : Follows p B (Copying p) (copyTemplate p B) :=
  closed_copyTemplate (closed_follows p B (Copying p)) (follows_drop fun _ => rfl)
    (follows_act (.created p.config.testDatabase p.config.templateDatabase) (fun _ => rfl)
      fun _ => ⟨rfl, rfl, rfl⟩)
    (follows_act (.opened p.config.testDatabase) (fun _ => rfl) fun _ => ⟨rfl, rfl⟩)

theorem follows_setupDatabase :
    Follows p B (fun e => Preparing p e ∨ Copying p e) (setupDatabase p B) := by
  have closed := closed_follows p B fun e => Preparing p e ∨ Copying p e
  refine closed.bind (follows_setupTemplate.mono fun _ => .inl) fun _ => closed.bind ?_ fun _ =>
    follows_copyTemplate.mono fun _ => .inr
  exact (follows_writeConfig _).mono fun _ h => .inl (.inl (.inl h))

/-- A file for a coverage dump costs at most its number. -/
theorem nextCoverageFile_numbered (p : Plan) (B : Backend σ Session) (b : Bench σ) :
    ∃ n, (nextCoverageFile p B b).2 =
      { b with fixture := { b.fixture with coverageNumber := n } } := by
  unfold nextCoverageFile
  cases p.config.coverageDirectory with
  | none => exact ⟨b.fixture.coverageNumber, rfl⟩
  | some directory => exact ⟨b.fixture.coverageNumber + 1, rfl⟩

theorem keeps_nextCoverageFile {I : Bench σ → Prop}
    (numbered : ∀ b n, I b → I { b with fixture := { b.fixture with coverageNumber := n } }) :
    Keeps I (nextCoverageFile p B) := by
  intro b h
  obtain ⟨n, same⟩ := nextCoverageFile_numbered p B b
  rw [same]
  exact numbered b n h

theorem follows_nextCoverageFile (p : Plan) (B : Backend σ Session) :
    Follows p B Φ (nextCoverageFile p B) := by
  intro b
  obtain ⟨n, numbered⟩ := nextCoverageFile_numbered p B b
  rw [numbered]
  exact ⟨[], .single .numbered, by simp⟩

end Testbed.Fixture

namespace Testbed.Operation

open Fixture

variable {σ Session : Type}

def Allows (p : Plan) : Operation Session → Event Session → Prop
  | writeConfig _, e | setupApiDatabase, e | setupUnknownDatabase, e => Settling p e
  | runScript script args, .ranScript i _ => i.command = p.command script args
  | dropDatabase name, .dropped name' _ => name' = name
  | setupTemplate, e => Preparing p e
  | setupDatabase, e => Preparing p e ∨ Copying p e
  | teardown session, e => Clearing p session e
  | _, _ => False

theorem follows (p : Plan) (B : Backend σ Session) (op : Operation Session) :
    Follows p B (op.Allows p) (op.perform p B) := by
  have closed := closed_follows p B (op.Allows p)
  cases op with
  | writeConfig database => exact closed.bind (follows_writeConfig database) fun _ => closed.pure _
  | runScript script args =>
    exact closed.bind (follows_runScript fun _ _ h => h) fun _ => closed.pure _
  | dropDatabase name =>
    refine closed.bind ?_ fun _ => closed.pure _
    exact closed_dropDatabase closed (follows_drop fun _ => rfl)
  | setupTemplate => exact closed.bind follows_setupTemplate fun _ => closed.pure _
  | setupApiDatabase => exact closed.bind (follows_writeConfig _) fun _ => closed.pure _
  | setupUnknownDatabase => exact closed.bind (follows_writeConfig _) fun _ => closed.pure _
  | setupDatabase => exact closed.bind follows_setupDatabase fun _ => closed.pure _
  | teardown session => exact closed.bind (follows_teardown session) fun _ => closed.pure _
  | nextCoverageFile => exact closed.bind (follows_nextCoverageFile p B) fun _ => closed.pure _

end Testbed.Operation
