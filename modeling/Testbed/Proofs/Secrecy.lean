import Testbed.Proofs.Course
import Testbed.Proofs.Dsn
import Testbed.Proofs.Masking
import Testbed.Proofs.PlainWorld
import Testbed.Proofs.Simulation

/-!
# The log keeps the password

Two fixtures may differ in nothing but the password, up to its first semicolon. If the outside
answers both alike, they do the same, and nobody can tell their logs apart.
-/

namespace Testbed

namespace Log

def Record.shown (r : Record) : Level × String × List (String × String) :=
  (r.level, r.message, r.redacted)

theorem Record.written_congr {r r' : Record} (same : r.shown = r'.shown) (settings : Settings)
    (time : String) : r.written settings time = r'.written settings time := by
  obtain ⟨level, rest⟩ := Prod.mk.inj same
  obtain ⟨message, redacted⟩ := Prod.mk.inj rest
  unfold Record.written Record.line Record.textLine Record.jsonLine Record.members
  rw [level, message, redacted]

theorem written_congr {log log' : List Record} (same : log.map Record.shown = log'.map Record.shown)
    (settings : Settings) (time : String) :
    written settings time log = written settings time log' := by
  unfold written
  congr 1
  induction log generalizing log' with
  | nil =>
    cases log' with
    | nil => rfl
    | cons => cases same
  | cons r log ih =>
    cases log' with
    | nil => cases same
    | cons r' log' =>
      obtain ⟨first, rest⟩ := List.cons_eq_cons.mp same
      rw [List.map_cons, List.map_cons, ih rest, Record.written_congr first]

end Log

namespace Fixture

open Work

def Plan.withPassword (p : Plan) (password : String) : Plan :=
  { p with config := { p.config with password := some password } }

/-- Passwords that are the same from the first semicolon on. -/
def SameTail (first second : String) : Prop :=
  first.toList.dropWhile (· ≠ ';') = second.toList.dropWhile (· ≠ ';')

section Twins

variable (p : Plan) (first second : String)

/-- The variables are the same, or they point at the same database with either password. -/
def VariableTwins (dictionary dictionary' : Dictionary) : Prop :=
  dictionary = dictionary' ∨ ∃ database, dictionary = (p.withPassword first).variablesOf database ∧
    dictionary' = (p.withPassword second).variablesOf database

/-- The texts are the same, or they are the dotenv files of such variables. -/
def ContentTwins (content content' : String) : Prop :=
  content = content' ∨ ∃ database,
    content = Dotenv.render ((p.withPassword first).variablesOf database) ∧
    content' = Dotenv.render ((p.withPassword second).variablesOf database)

structure InvocationTwins (i i' : Script.Invocation) : Prop where
  command : i.command = i'.command
  directory : i.directory = i'.directory
  environment : VariableTwins p first second i.environment i'.environment

variable {σ τ Session α : Type}

/-- The answers are the same, and the worlds are related again. -/
def Agree (R : σ → τ → Prop) (out : α × σ) (out' : α × τ) : Prop :=
  out.1 = out'.1 ∧ R out.2 out'.2

/-- The answers of two backends do not depend on the password. -/
structure Agreement (B : Backend σ Session) (B' : Backend τ Session) (R : σ → τ → Prop) :
    Prop where
  directoryFault : ∀ w w', R w w' → B.directoryFault w = B'.directoryFault w'
  databaseExists : ∀ name w w', R w w' →
    Agree R (B.databaseExists name w) (B'.databaseExists name w')
  dropDatabase : ∀ name w w', R w w' → Agree R (B.dropDatabase name w) (B'.dropDatabase name w')
  createDatabase : ∀ name template w w', R w w' →
    Agree R (B.createDatabase name template w) (B'.createDatabase name template w')
  truncateTables : ∀ database candidates w w', R w w' →
    Agree R (B.truncateTables database candidates w) (B'.truncateTables database candidates w')
  openSession : ∀ database w w', R w w' →
    Agree R (B.openSession database w) (B'.openSession database w')
  closeSession : ∀ session w w', R w w' → R (B.closeSession session w) (B'.closeSession session w')
  runScript : ∀ i i' w w', InvocationTwins p first second i i' → R w w' →
    Agree R (B.runScript i w) (B'.runScript i' w')
  makeDirectory : ∀ stem w w', R w w' → Agree R (B.makeDirectory stem w) (B'.makeDirectory stem w')
  makeFile : ∀ stem ending w w', R w w' →
    Agree R (B.makeFile stem ending w) (B'.makeFile stem ending w')
  writeFile : ∀ path content content' w w', ContentTwins p first second content content' → R w w' →
    Agree R (B.writeFile path content w) (B'.writeFile path content' w')
  removeDirectory : ∀ path w w', R w w' → R (B.removeDirectory path w) (B'.removeDirectory path w')
  removeFile : ∀ path w w', R w w' → R (B.removeFile path w) (B'.removeFile path w')

structure StateTwins (s s' : State) : Prop where
  website : s.website = s'.website
  ready : s.templateReady = s'.templateReady
  number : s.coverageNumber = s'.coverageNumber
  environment : (s.environment = none ∧ s'.environment = none) ∨
    ∃ database, s.environment = some ((p.withPassword first).variablesOf database) ∧
      s'.environment = some ((p.withPassword second).variablesOf database)

structure BenchTwins (R : σ → τ → Prop) (b : Bench σ) (b' : Bench τ) : Prop where
  fixture : StateTwins p first second b.fixture b'.fixture
  log : b.log.map Log.Record.shown = b'.log.map Log.Record.shown
  world : R b.world b'.world

end Twins

variable {p : Plan} {first second : String} {σ τ Session α : Type} {B : Backend σ Session}
  {B' : Backend τ Session} {R : σ → τ → Prop}

/-! ## Parts of operations -/

theorem StateTwins.childVariables {s s' : State} (h : StateTwins p first second s s') :
    VariableTwins p first second s.childVariables s'.childVariables := by
  unfold State.childVariables
  rcases h.environment with ⟨none, none'⟩ | ⟨database, some, some'⟩
  · exact .inl (by rw [none, none'])
  · exact .inr ⟨database, by rw [some]; rfl, by rw [some']; rfl⟩

theorem StateTwins.pointsAt {s s' : State} (h : StateTwins p first second s s')
    (database : String) :
    s.pointsAt ((p.withPassword first).config.connection.dsn database) =
      s'.pointsAt ((p.withPassword second).config.connection.dsn database) := by
  have configured : s.Configured (p.withPassword first) :=
    State.configured_of (h.environment.imp And.left fun ⟨database, one, _⟩ => ⟨database, one⟩)
  have configured' : s'.Configured (p.withPassword second) :=
    State.configured_of (h.environment.imp And.right fun ⟨database, _, other⟩ => ⟨database, other⟩)
  rw [Bool.eq_iff_iff, State.pointsAt_iff configured, State.pointsAt_iff configured']
  unfold State.AtHome
  rw [h.website]
  refine and_congr_right fun _ => ?_
  rcases h.environment with ⟨none, none'⟩ | ⟨other, some, some'⟩
  · simp [none, none']
  · rw [some, some', Option.some.injEq, Option.some.injEq]
    exact ⟨fun same => congrArg _ (Plan.variablesOf_injective same),
      fun same => congrArg _ (Plan.variablesOf_injective same)⟩

theorem paired_tell {r r' : Log.Record} (same : r.shown = r'.shown) :
    Paired (BenchTwins p first second R) Eq (tell r) (tell r') :=
  fun b b' h => ⟨.ok rfl, h.fixture, by
    simp only [tell_apply, List.map_append, h.log, List.map_singleton, same], h.world⟩

theorem paired_fixture :
    Paired (BenchTwins p first second R) (StateTwins p first second) fixture fixture :=
  fun _ _ h => ⟨.ok h.fixture, h⟩

theorem paired_setFixture {f f' : State → State}
    (same : ∀ s s', StateTwins p first second s s' → StateTwins p first second (f s) (f' s')) :
    Paired (BenchTwins p first second R) Eq (setFixture f) (setFixture f') :=
  fun _ _ h => ⟨.ok rfl, same _ _ h.fixture, h.log, h.world⟩

theorem paired_act {a : Action σ α} {a' : Action τ α}
    (same : ∀ w w', R w w' → Agree R (a w) (a' w')) :
    Paired (BenchTwins p first second R) Eq (act a) (act a') := by
  intro b b' h
  obtain ⟨answers, worlds⟩ := same _ _ h.world
  exact ⟨matching_eq_iff.mpr answers, h.fixture, h.log, worlds⟩

theorem paired_doing {ε : Type} {reason : ε → Failure} {a : σ → Except ε α × σ}
    {a' : τ → Except ε α × τ} (same : ∀ w w', R w w' → Agree R (a w) (a' w')) :
    Paired (BenchTwins p first second R) Eq (doing reason a) (doing reason a') := by
  intro b b' h
  obtain ⟨answers, worlds⟩ := same _ _ h.world
  refine ⟨matching_eq_iff.mpr ?_, h.fixture, h.log, worlds⟩
  simp only [doing_apply, answers]

theorem paired_change {f : σ → σ} {f' : τ → τ} (same : ∀ w w', R w w' → R (f w) (f' w')) :
    Paired (BenchTwins p first second R) Eq (change f) (change f') :=
  fun _ _ h => ⟨.ok rfl, h.fixture, h.log, same _ _ h.world⟩

/-! ## Operations -/

section Operations

variable (agreement : Agreement p first second B B' R)

include agreement

theorem paired_workingDirectory :
    Paired (BenchTwins p first second R) Eq (workingDirectory (p.withPassword first) B)
      (workingDirectory (p.withPassword second) B') :=
  fun _ _ h => ⟨.ok (congrArg p.directory (agreement.directoryFault _ _ h.world)), h⟩

theorem paired_nextCoverageFile :
    Paired (BenchTwins p first second R) Eq (nextCoverageFile (p.withPassword first) B)
      (nextCoverageFile (p.withPassword second) B') := by
  have unaware (password : String) :
      (p.withPassword password).config.coverageDirectory = p.config.coverageDirectory := rfl
  rw [nextCoverageFile, nextCoverageFile, unaware, unaware]
  cases p.config.coverageDirectory with
  | none => exact paired_pure rfl
  | some directory =>
    refine paired_bind paired_fixture fun s s' twins => ?_
    refine paired_bind (paired_setFixture fun s s' h => ?_) fun _ _ _ => ?_
    · exact ⟨h.website, h.ready, congrArg (· + 1) twins.number, h.environment⟩
    · refine paired_bind (paired_workingDirectory agreement) ?_
      rintro reading _ rfl
      rw [twins.number]
      exact paired_pure rfl

theorem paired_leaveWebsite :
    Paired (BenchTwins p first second R) Eq (leaveWebsite B) (leaveWebsite B') := by
  refine paired_bind paired_fixture fun s s' twins => ?_
  rw [twins.website]
  cases s'.website with
  | none => exact paired_pure rfl
  | some path =>
    refine paired_bind (paired_change (agreement.removeDirectory path)) fun _ _ _ => ?_
    exact paired_setFixture fun s s' h => ⟨rfl, h.ready, h.number, h.environment⟩

theorem paired_runScript (script : Script.Name) (args : Script.Arguments) :
    Paired (BenchTwins p first second R) Eq (runScript (p.withPassword first) B script args)
      (runScript (p.withPassword second) B' script args) := by
  refine paired_bind (paired_workingDirectory agreement) ?_
  rintro reading _ rfl
  have unaware (password : String) :
      (p.withPassword password).launcher.commandLine reading
          (p.withPassword password).config.buildDirectory script.text args =
        p.launcher.commandLine reading p.config.buildDirectory script.text args := rfl
  rw [unaware, unaware]
  cases p.launcher.commandLine reading p.config.buildDirectory script.text args with
  | error fault => exact paired_throw _
  | ok command =>
  refine paired_bind paired_fixture fun s s' twins => ?_
  refine paired_bind (V := Matching Eq) (paired_attempt fun b b' h => ?_) fun r r' same => ?_
  · have invocations : InvocationTwins p first second
        ⟨command, s.website.getD p.config.buildDirectory, s.childVariables⟩
        ⟨command, s'.website.getD p.config.buildDirectory, s'.childVariables⟩ :=
      ⟨rfl, congrArg (·.getD p.config.buildDirectory) twins.website, twins.childVariables⟩
    obtain ⟨answers, worlds⟩ := agreement.runScript _ _ _ _ invocations h.world
    refine ⟨matching_eq_iff.mpr (congrArg Prod.snd answers), h.fixture, ?_, worlds⟩
    have records := congrArg (fun answer => answer.1.map Log.Record.shown) answers
    simp only [running_apply, List.map_append, h.log]
    exact congrArg (_ ++ ·) records
  · cases same with
    | ok => exact paired_pure rfl
    | error e => exact paired_throw _

theorem paired_makeWebsite (database : String) :
    Paired (BenchTwins p first second R) Eq
      (makeWebsite B ((p.withPassword first).variablesOf database))
      (makeWebsite B' ((p.withPassword second).variablesOf database)) := by
  refine paired_bind (V := Eq) (paired_doing (agreement.makeDirectory websiteStem)) ?_
  rintro path _ rfl
  refine paired_bind (V := Matching Eq) (paired_attempt (paired_doing
    (agreement.writeFile _ _ _ · · (.inr ⟨database, rfl, rfl⟩)))) fun r r' same => ?_
  cases same with
  | ok => exact paired_pure rfl
  | error e =>
    exact paired_bind (paired_change (agreement.removeDirectory path)) fun _ _ _ => paired_throw e

theorem paired_writeConfig (tail : SameTail first second) (database : String) :
    Paired (BenchTwins p first second R) Eq (writeConfig (p.withPassword first) B database)
      (writeConfig (p.withPassword second) B' database) := by
  refine paired_bind paired_fixture fun s s' twins => ?_
  rw [twins.pointsAt database]
  split
  · exact paired_tell rfl
  refine paired_bind (paired_leaveWebsite agreement) fun _ _ _ => ?_
  refine paired_bind (paired_makeWebsite agreement database) ?_
  rintro path _ rfl
  have masked : Log.redact "dsn" ((p.withPassword first).config.connection.dsn database) =
      Log.redact "dsn" ((p.withPassword second).config.connection.dsn database) := by
    have split (secret : String) : (p.withPassword secret).config.connection.dsn database =
        p.config.connection.openPart database ++ ";password=" ++ secret :=
      p.config.connection.dsn_password database secret
    rw [Log.redact_dsn, Log.redact_dsn, split, split, Log.maskDsn_password tail]
  refine paired_bind (paired_tell ?_) fun _ _ _ => ?_
  · simp [Log.Record.shown, Log.Record.redacted, Log.info, masked]
  refine paired_bind (paired_setFixture fun s s' h =>
    ⟨rfl, h.ready, h.number, .inr ⟨database, rfl, rfl⟩⟩) fun _ _ _ => ?_
  refine paired_bind (paired_attempt (paired_runScript agreement _ _)) fun r r' same => ?_
  cases same with
  | ok => exact paired_pure rfl
  | error e => exact paired_bind (paired_leaveWebsite agreement) fun _ _ _ => paired_throw e

theorem paired_dropDatabase (name : String) :
    Paired (BenchTwins p first second R) Eq (dropDatabase B name) (dropDatabase B' name) :=
  paired_bind (paired_tell rfl) fun _ _ _ => paired_act (agreement.dropDatabase name)

theorem paired_importNothing :
    Paired (BenchTwins p first second R) Eq (importNothing (p.withPassword first) B)
      (importNothing (p.withPassword second) B') := by
  refine paired_bind (V := Eq) (paired_doing (agreement.makeFile osmStem osmEnding)) ?_
  rintro path _ rfl
  refine paired_finally (paired_bind (V := Eq) ?_ fun _ _ _ => paired_runScript agreement _ _)
    (paired_change (agreement.removeFile path))
  exact paired_doing (agreement.writeFile path _ _ · · (.inl rfl))

theorem paired_buildTemplate (tail : SameTail first second) (template : String) :
    Paired (BenchTwins p first second R) Eq (buildTemplate (p.withPassword first) B template)
      (buildTemplate (p.withPassword second) B' template) := by
  refine paired_bind (paired_writeConfig agreement tail template) fun _ _ _ => ?_
  refine paired_bind (paired_runScript agreement _ _) fun _ _ _ => ?_
  refine paired_bind (V := Eq) (paired_act (agreement.truncateTables _ _)) ?_
  rintro tables _ rfl
  refine paired_bind (paired_forIn_tell (fun _ => paired_tell rfl) tables) fun _ _ _ => ?_
  exact paired_importNothing agreement

theorem paired_rebuildTemplate (tail : SameTail first second) (template : String) :
    Paired (BenchTwins p first second R) Eq (rebuildTemplate (p.withPassword first) B template)
      (rebuildTemplate (p.withPassword second) B' template) := by
  refine paired_bind (paired_tell rfl) fun _ _ _ => ?_
  refine paired_bind (paired_attempt (paired_buildTemplate agreement tail template)) ?_
  rintro _ _ (same | e)
  · refine paired_bind (paired_setFixture fun s s' h => ?_) fun _ _ _ => paired_tell rfl
    exact ⟨h.website, rfl, h.number, h.environment⟩
  · refine paired_bind (paired_tell rfl) fun _ _ _ => ?_
    refine paired_bind (paired_attempt (paired_act (agreement.dropDatabase template))) ?_
    rintro _ _ (same | second)
    · exact paired_throw e
    · exact paired_bind (paired_tell rfl) fun _ _ _ => paired_throw e

theorem paired_setupTemplate (tail : SameTail first second) :
    Paired (BenchTwins p first second R) Eq (setupTemplate (p.withPassword first) B)
      (setupTemplate (p.withPassword second) B') := by
  have rebuild := paired_rebuildTemplate agreement tail p.config.templateDatabase
  refine paired_bind paired_fixture fun s s' twins => ?_
  rw [twins.ready]
  split
  · exact paired_pure rfl
  change Paired _ _ (if p.config.reuseTemplate = true then _ else _)
    (if p.config.reuseTemplate = true then _ else _)
  split
  · refine paired_bind (V := Eq) (paired_act (agreement.databaseExists _)) ?_
    rintro found _ rfl
    split
    · refine paired_bind (paired_tell rfl) fun _ _ _ => paired_setFixture fun s s' h => ?_
      exact ⟨h.website, rfl, h.number, h.environment⟩
    · exact rebuild
  · exact paired_bind (paired_dropDatabase agreement _) fun _ _ _ => rebuild

theorem paired_teardown (session : Option Session) :
    Paired (BenchTwins p first second R) Eq (teardown (p.withPassword first) B session)
      (teardown (p.withPassword second) B' session) := by
  have clear : Paired (BenchTwins p first second R) Eq
      (if p.config.keepTestDatabase then
        tell (Log.info "keeping scenario database" [("database", p.config.testDatabase)])
      else dropDatabase B p.config.testDatabase)
      (if p.config.keepTestDatabase then
        tell (Log.info "keeping scenario database" [("database", p.config.testDatabase)])
      else dropDatabase B' p.config.testDatabase) := by
    split
    · exact paired_tell rfl
    · exact paired_dropDatabase agreement _
  cases session with
  | none => exact clear
  | some s => exact paired_bind (paired_change (agreement.closeSession s)) fun _ _ _ => clear

theorem paired_setupDatabase (tail : SameTail first second) :
    Paired (BenchTwins p first second R) Eq (setupDatabase (p.withPassword first) B)
      (setupDatabase (p.withPassword second) B') := by
  refine paired_bind (paired_setupTemplate agreement tail) fun _ _ _ => ?_
  refine paired_bind (paired_writeConfig agreement tail _) fun _ _ _ => ?_
  refine paired_bind (paired_act (agreement.dropDatabase _)) fun _ _ _ => ?_
  refine paired_bind (paired_act (agreement.createDatabase _ _)) fun _ _ _ => ?_
  refine paired_bind (paired_tell rfl) fun _ _ _ => ?_
  refine paired_bind (paired_attempt (paired_act (agreement.openSession _))) ?_
  rintro _ _ (rfl | e)
  · exact paired_pure rfl
  · refine paired_bind (paired_attempt (paired_teardown agreement none)) ?_
    rintro _ _ (same | second)
    · exact paired_throw e
    · exact paired_bind (paired_tell rfl) fun _ _ _ => paired_throw e

theorem paired_perform (tail : SameTail first second) (op : Operation Session) :
    Paired (BenchTwins p first second R) Eq (op.perform (p.withPassword first) B)
      (op.perform (p.withPassword second) B') := by
  have done {w : Work σ Unit} {w' : Work τ Unit}
      (h : Paired (BenchTwins p first second R) Eq w w') :
      Paired (BenchTwins p first second R) Eq (do w; return (Reply.done : Reply Session))
        (do w'; return (Reply.done : Reply Session)) :=
    paired_bind h fun _ _ _ => paired_pure rfl
  cases op with
  | writeConfig | setupApiDatabase | setupUnknownDatabase =>
    exact done (paired_writeConfig agreement tail _)
  | runScript => exact done (paired_runScript agreement _ _)
  | dropDatabase => exact done (paired_dropDatabase agreement _)
  | setupTemplate => exact done (paired_setupTemplate agreement tail)
  | teardown => exact done (paired_teardown agreement _)
  | setupDatabase =>
    refine paired_bind (paired_setupDatabase agreement tail) ?_
    rintro session _ rfl
    exact paired_pure rfl
  | nextCoverageFile =>
    refine paired_bind (paired_nextCoverageFile agreement) ?_
    rintro file _ rfl
    exact paired_pure rfl

end Operations

end Fixture

namespace PlainWorld

open Fixture

/-- The worlds differ in nothing but their files. -/
structure Alike (w w' : PlainWorld) : Prop where
  databases : w.databases = w'.databases
  given : w.given = w'.given
  troubles : w.troubles = w'.troubles
  lost : w.lost = w'.lost

theorem takeWhile_append_stop {α : Type} {keep : α → Bool} {c : α} (stop : keep c = false)
    (a b : List α) : (a ++ c :: b).takeWhile keep = a.takeWhile keep := by
  induction a with
  | nil => simp [stop]
  | cons x a ih => simp [List.takeWhile_cons, ih]

theorem databaseOf_password (front password : String) :
    Rehearsal.Recorder.databaseOf ("pgsql:dbname=" ++ front ++ ";password=" ++ password) =
      String.ofList (front.toList.takeWhile (· ≠ ';')) := by
  have list : ("pgsql:dbname=" ++ front ++ ";password=" ++ password).toList =
      "pgsql:dbname=".toList ++
        (front.toList ++ ';' :: ("password=".toList ++ password.toList)) := by
    simp
  unfold Rehearsal.Recorder.databaseOf
  rw [list, Text.after?_append, Option.getD_some]
  exact congrArg String.ofList (takeWhile_append_stop (by decide) _ _)

theorem request_agree {ε α : Type} {trouble : ε}
    {answer answer' : PlainWorld → Except ε α × PlainWorld} {w w' : PlainWorld} (h : Alike w w')
    (same : ∀ v v', Alike v v' → Agree Alike (answer v) (answer' v')) :
    Agree Alike (request trouble answer w) (request trouble answer' w') := by
  unfold request
  rw [h.troubles]
  split
  · exact ⟨rfl, h.databases, h.given, rfl, h.lost⟩
  · exact same _ _ ⟨h.databases, h.given, rfl, h.lost⟩

theorem served_alike {p : Plan} {first second : String} {i i' : Script.Invocation}
    (same : InvocationTwins p first second i i') {w w' : PlainWorld} (h : Alike w w') :
    Alike (w.served i) (w'.served i') := by
  have named : (i.environment.get? AppEnv.dsnName).map Rehearsal.Recorder.databaseOf =
      (i'.environment.get? AppEnv.dsnName).map Rehearsal.Recorder.databaseOf := by
    rcases same.environment with equal | ⟨database, one, other⟩
    · rw [equal]
    · have named (password : String) :
          ((p.withPassword password).variablesOf database).get? AppEnv.dsnName =
            some (p.config.connection.openPart database ++ ";password=" ++ password) :=
        (AppEnv.get?_dsnName _ _).trans
          (congrArg some (p.config.connection.dsn_password database password))
      obtain ⟨front, start⟩ : ∃ front,
          p.config.connection.openPart database = "pgsql:dbname=" ++ front :=
        ⟨_, String.append_assoc ..⟩
      simp only [one, other, named, start, Option.map_some, databaseOf_password]
  unfold served
  rw [same.command, named]
  split
  · exact ⟨by rw [h.databases], h.given, h.troubles, h.lost⟩
  · exact h

theorem agreement (p : Plan) (first second : String) :
    Agreement p first second backend backend Alike := by
  constructor <;> simp only [backend, stage]
  case directoryFault => exact fun _ _ h => h.lost
  case databaseExists =>
    exact fun _ _ _ h => request_agree h fun v v' h => ⟨by rw [h.databases], h⟩
  case dropDatabase =>
    exact fun _ _ _ h => request_agree h fun v v' h =>
      ⟨rfl, by rw [h.databases], h.given, h.troubles, h.lost⟩
  case createDatabase =>
    refine fun _ _ _ _ h => request_agree h fun v v' h => ?_
    rw [h.databases]
    split
    · exact ⟨rfl, rfl, h.given, h.troubles, h.lost⟩
    · exact ⟨rfl, h⟩
  case truncateTables | openSession =>
    intros
    rename_i h
    exact request_agree h fun v v' h => ⟨rfl, h⟩
  case closeSession => exact fun _ _ _ h => h
  case runScript =>
    intro i i' w w' same h
    have ran : Agree Alike (request (Failure.told "no luck") (fun w => (.ok (), w.served i)) w)
        (request (Failure.told "no luck") (fun w => (.ok (), w.served i')) w') :=
      request_agree h fun v v' h => ⟨rfl, served_alike same h⟩
    exact ⟨congrArg (Prod.mk _) ran.1, ran.2⟩
  case makeDirectory | makeFile =>
    intros
    rename_i h
    exact request_agree h fun v v' h =>
      ⟨by simp [temporary, h.given], h.databases, congrArg (· + 1) h.given, h.troubles,
        h.lost⟩
  case writeFile =>
    exact fun _ _ _ _ _ _ h => request_agree h fun v v' h =>
      ⟨rfl, h.databases, h.given, h.troubles, h.lost⟩
  case removeDirectory | removeFile =>
    exact fun _ _ _ h => ⟨h.databases, h.given, h.troubles, h.lost⟩

end PlainWorld

namespace Fixture

open Work

variable {p : Plan} {first second : String} {σ τ Session : Type} {B : Backend σ Session}
  {B' : Backend τ Session} {R : σ → τ → Prop}

/-- No part of a password in front of its first semicolon reaches the log, and it decides nothing
else either. -/
theorem password_unseen (p : Plan) {first second : String} (tail : SameTail first second)
    (agreement : Agreement p first second B B' R) {w : σ} {w' : τ} (start : R w w')
    (ops : List (Operation Session)) :
    let one := Operation.run (p.withPassword first) B ops { world := w }
    let other := Operation.run (p.withPassword second) B' ops { world := w' }
    one.1 = other.1 ∧ ∀ settings time,
      Log.written settings time one.2.log = Log.written settings time other.2.log := by
  have twins : BenchTwins p first second R { world := w } { world := w' } :=
    ⟨⟨rfl, rfl, rfl, .inl ⟨rfl, rfl⟩⟩, rfl, start⟩
  obtain ⟨results, benches⟩ :=
    Operation.run_paired (fun op _ => paired_perform agreement tail op) twins
  exact ⟨results, Log.written_congr benches.log⟩

theorem password_unseen_plain :
    let one := Operation.run (PlainWorld.plan.withPassword "alpha;x") PlainWorld.backend
      [.setupDatabase, .setupApiDatabase] { world := {} }
    let other := Operation.run (PlainWorld.plan.withPassword "omega;x") PlainWorld.backend
      [.setupDatabase, .setupApiDatabase] { world := {} }
    SameTail "alpha;x" "omega;x" ∧ one.1 = other.1 ∧ ∀ settings time,
      Log.written settings time one.2.log = Log.written settings time other.2.log := by
  have tail : SameTail "alpha;x" "omega;x" := by
    unfold SameTail
    decide +kernel
  exact ⟨tail,
    password_unseen PlainWorld.plan tail (PlainWorld.agreement _ _ _) ⟨rfl, rfl, rfl, rfl⟩ _⟩

end Fixture

end Testbed
