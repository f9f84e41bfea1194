import Testbed.Proofs.Chronicle
import Testbed.Proofs.Operation
import Testbed.Proofs.ScriptPath

/-!
# The course of an operation

A fixture proceeds in small steps, and a step makes at most the requests that belong together. It
is said here in which state a script is run and when the website changes. Every operation is a
course of such steps, so what all steps keep is kept by every operation.
-/

namespace Testbed.Fixture

open Work

def websiteArguments : Script.Arguments where
  flags := ["setup-website"]

def creationArguments : Script.Arguments where
  flags := ["create-db", "setup-db"]

namespace Plan

variable (p : Plan)

/-- The command line of a script that has a path. -/
def command (script : Script.Name) (args : Script.Arguments) : List String :=
  p.launcher.program ++
    p.launcher.filePath p.workingDirectory p.config.buildDirectory script :: args.toWords

theorem toWords_eq {p : Plan} {script : Script.Name} {args args' : Script.Arguments}
    (same : p.command script args = p.command script args') : args.toWords = args'.toWords := by
  simpa [command] using same

theorem import_ne {p : Plan} {flag : String} (other : "--" ++ flag ≠ "--import-data")
    {flags : List String} (osm : String) :
    p.command .setup { flags := flag :: flags } ≠ p.command .setup (importArguments osm) := by
  intro same
  have words := toWords_eq same
  simp only [importArguments, importSteps, Script.Arguments.toWords, List.map_cons,
    List.cons_append, List.cons.injEq] at words
  exact other words.1

/-- Why scripts have no path in a world, if they have none. In an absolute build directory they
always have one. -/
def lost? {σ Session : Type} (B : Backend σ Session) (w : σ) : Option SystemFault :=
  if Path.isAbsolute p.config.buildDirectory then none else B.directoryFault w

/-- A script has no command line if and only if it has no path. -/
theorem commandLine_eq {σ Session : Type} (B : Backend σ Session) (w : σ) (script : Script.Name)
    (args : Script.Arguments) :
    p.launcher.commandLine (p.directory (B.directoryFault w)) p.config.buildDirectory script.text
        args =
      match p.lost? B w with
      | some reason => .error ⟨script.text, reason⟩
      | none => .ok (p.command script args) := by
  unfold Script.Launcher.commandLine lost?
  by_cases absolute : Path.isAbsolute p.config.buildDirectory = true
  · rw [p.launcher.scriptPath_of_isAbsolute script absolute _ p.workingDirectory, if_pos absolute]
    rfl
  · rw [if_neg absolute]
    cases B.directoryFault w with
    | none =>
      rw [Plan.directory, p.launcher.scriptPath_ok]
      rfl
    | some reason =>
      rw [Plan.directory, p.launcher.scriptPath_error script (by simpa using absolute)]
      rfl

def variablesOf (database : String) : Dictionary :=
  AppEnv.environment (p.config.connection.dsn database) p.config.serverModulePath

def invocation (s : State) (script : Script.Name) (args : Script.Arguments) :
    Script.Invocation where
  command := p.command script args
  directory := s.website.getD p.config.buildDirectory
  environment := s.childVariables

end Plan

def dotenvFile (website : String) : String :=
  Path.join website ".env"

def State.homeless (s : State) : State :=
  { s with website := none }

/-- The state of a fixture with a website for the given variables. -/
def State.settled (s : State) (environment : Dictionary) (website : String) : State :=
  { s with environment := some environment, website := some website }

variable {σ Session α β : Type} (p : Plan) (B : Backend σ Session)

/-- One step from a bench, with its events. A website is only made where there is none. The website
and the variables change together, once the dotenv file of the new website holds the variables. -/
inductive Step (b : Bench σ) : List (Event Session) → Bench σ → Prop
  | told (r : Log.Record) : Step b [] { b with log := b.log ++ [r] }
  | asked {e w} : e.isPlain = true → B.Happens b.world e w → Step b [e] { b with world := w }
  | ran {script args records answer w} :
      B.runScript (p.invocation b.fixture script args) b.world = ((records, answer), w) →
      Step b [.ranScript (p.invocation b.fixture script args) answer]
        { b with log := b.log ++ records, world := w }
  | left {path} : b.fixture.website = some path →
      Step b [.removedDirectory path]
        { b with fixture := b.fixture.homeless, world := B.removeDirectory path b.world }
  | noDirectory {fault w} : b.fixture.website = none →
      B.makeDirectory websiteStem b.world = (.error fault, w) →
      Step b [.madeDirectory websiteStem (.error fault)] { b with world := w }
  | noDotenv {database path fault w w'} : b.fixture.website = none →
      B.makeDirectory websiteStem b.world = (.ok path, w) →
      B.writeFile (dotenvFile path) (Dotenv.render (p.variablesOf database)) w =
        (.error fault, w') →
      Step b
        [.madeDirectory websiteStem (.ok path),
          .wrote (dotenvFile path) (Dotenv.render (p.variablesOf database)) (.error fault),
          .removedDirectory path]
        { b with world := B.removeDirectory path w' }
  | settled {database path w w'} (r : Log.Record) : b.fixture.website = none →
      B.makeDirectory websiteStem b.world = (.ok path, w) →
      B.writeFile (dotenvFile path) (Dotenv.render (p.variablesOf database)) w = (.ok (), w') →
      Step b
        [.madeDirectory websiteStem (.ok path),
          .wrote (dotenvFile path) (Dotenv.render (p.variablesOf database)) (.ok ())]
        { fixture := b.fixture.settled (p.variablesOf database) path
          log := b.log ++ [r]
          world := w' }
  | found : Step b [] { b with fixture := { b.fixture with templateReady := true } }
  | numbered {n} : Step b [] { b with fixture := { b.fixture with coverageNumber := n } }

/-- Steps one after the other, with all their events. -/
inductive Course : Bench σ → List (Event Session) → Bench σ → Prop
  | nil {b} : Course b [] b
  | cons {b es b' fs b''} : Step p B b es b' → Course b' fs b'' → Course b (es ++ fs) b''

variable {p B} {b b' b'' : Bench σ} {es fs : List (Event Session)}

theorem Course.single (h : Step p B b es b') : Course p B b es b' := by
  simpa using Course.cons h .nil

theorem Course.append (h : Course p B b es b') (h' : Course p B b' fs b'') :
    Course p B b (es ++ fs) b'' := by
  induction h with
  | nil => exact h'
  | cons step _ ih => rw [List.append_assoc]; exact .cons step (ih h')

theorem Step.chain (h : Step p B b es b') : B.Chain b.world es b'.world := by
  cases h with
  | told | found | numbered => exact .nil
  | asked _ happens => exact .single happens
  | ran answer => exact .single ⟨_, answer⟩
  | left _ => exact .single rfl
  | noDirectory _ made => exact .single made
  | noDotenv _ made wrote => exact .cons made (.cons wrote (.single rfl))
  | settled _ _ made wrote => exact .cons made (.single wrote)

/-- A course shows the world a chain of events. -/
theorem Course.chain (h : Course p B b es b') : B.Chain b.world es b'.world := by
  induction h with
  | nil => exact .nil
  | cons step _ ih => exact step.chain.append ih

/-- Nothing makes the fixture forget that the template is ready. -/
theorem Course.ready (h : Course p B b es b') (ready : b.fixture.templateReady = true) :
    b'.fixture.templateReady = true := by
  induction h with
  | nil => exact ready
  | cons step _ ih =>
    apply ih
    cases step with
    | found => rfl
    | _ => exact ready

/-- The website after an event. A directory is only made to be the website. -/
def homeAfter (website : Option String) : Event Session → Option String
  | .madeDirectory _ (.ok path) => some path
  | .removedDirectory _ => none
  | _ => website

theorem homeAfter_plain {e : Event Session} (plain : e.isPlain = true) (website : Option String) :
    homeAfter website e = website := by
  cases e <;> first | rfl | cases plain

/-- The events of a course tell where its website is. -/
theorem Course.website (h : Course p B b es b') :
    b'.fixture.website = es.foldl homeAfter b.fixture.website := by
  induction h with
  | nil => rfl
  | cons step _ ih =>
    rw [List.foldl_append, ih]
    congr 1
    cases step with
    | told | found | numbered | ran | left | noDirectory | settled => rfl
    | asked plain => exact (homeAfter_plain plain _).symm
    | noDotenv homeless => exact homeless

/-- What the dotenv file that was written last holds, after the events. -/
def dotenvAfter (content : Option String) : List (Event Session) → Option String
  | [] => content
  | .madeDirectory _ (.ok _) :: .wrote _ new (.ok _) :: es => dotenvAfter (some new) es
  | _ :: es => dotenvAfter content es

theorem dotenvAfter_plain {e : Event Session} (plain : e.isPlain = true) (content : Option String)
    (es : List (Event Session)) : dotenvAfter content (e :: es) = dotenvAfter content es := by
  cases e <;> first | rfl | cases plain

/-- The events of a course tell what its variables are. -/
theorem Course.dotenv (h : Course p B b es b') :
    b'.fixture.environment.map Dotenv.render =
      dotenvAfter (b.fixture.environment.map Dotenv.render) es := by
  induction h with
  | nil => rfl
  | cons step _ ih =>
    rw [ih]
    cases step with
    | told | found | numbered | ran | left | noDotenv | settled => rfl
    | noDirectory => simp [dotenvAfter]
    | asked plain => exact (dotenvAfter_plain plain _ _).symm

/-- A step that runs a script does nothing else, and runs it as the state says. -/
theorem Step.script {i : Script.Invocation} {answer : Except Failure Unit}
    (h : Step p B b es b') (mem : Event.ranScript i answer ∈ es) :
    es = [.ranScript i answer] ∧ i.environment = b.fixture.childVariables ∧
      i.directory = b.fixture.website.getD p.config.buildDirectory ∧
      b'.fixture = b.fixture := by
  cases h with
  | told | found | numbered => simp at mem
  | asked quiet =>
    obtain rfl := List.mem_singleton.mp mem
    simp [Event.isPlain] at quiet
  | ran answer =>
    obtain ⟨rfl, rfl⟩ : i = _ ∧ _ = _ := by simpa using mem
    exact ⟨rfl, rfl, rfl, rfl⟩
  | left | noDirectory | noDotenv | settled => simp at mem

/-- A script is run with the variables and in the website of the state that the fixture is in, or
in the build directory if there is no website. -/
theorem Course.script {pre post : List (Event Session)} {i : Script.Invocation}
    {answer : Except Failure Unit}
    (h : Course p B b (pre ++ .ranScript i answer :: post) b') :
    ∃ m m', Course p B b pre m ∧ Course p B m' post b' ∧
      i.environment = m.fixture.childVariables ∧
      i.directory = m.fixture.website.getD p.config.buildDirectory ∧
      m'.fixture = m.fixture := by
  generalize split : pre ++ .ranScript i answer :: post = all at h
  induction h generalizing pre with
  | nil => simp at split
  | @cons b es m fs b' step rest ih =>
    rcases List.append_eq_append_iff.mp split with ⟨here, hes, hfs⟩ | ⟨before, hpre, hfs⟩
    · cases here with
      | nil =>
        obtain ⟨m₁, m₂, first, second, facts⟩ := @ih [] (by simpa using hfs)
        refine ⟨m₁, m₂, ?_, second, facts⟩
        simpa [hes] using Course.cons step first
      | cons e here =>
        obtain ⟨rfl, hpost⟩ : _ = e ∧ post = here ++ fs := by simpa using hfs
        have mem : .ranScript i answer ∈ es := by simp [hes]
        obtain ⟨single, facts⟩ := step.script mem
        obtain ⟨rfl, rfl⟩ : pre = [] ∧ here = [] := by
          have := hes.symm.trans single
          simpa [List.append_eq_singleton_iff] using this
        exact ⟨b, m, .nil, by simpa [hpost] using rest, facts⟩
    · obtain ⟨m₁, m₂, first, second, facts⟩ := ih hfs.symm
      exact ⟨m₁, m₂, hpre ▸ .cons step first, second, facts⟩

end Testbed.Fixture
