import Testbed.Proofs.Chronicle
import Testbed.Proofs.Work

/-!
# Runs of a fixture

A test suite asks a fixture for one operation after the other, and goes on after one that failed.
Nothing is assumed of the order, so a session may be closed that no operation of the run opened.
-/

namespace Testbed

/-- What a fixture can be asked for. -/
inductive Operation (Session : Type) where
  | writeConfig (database : String)
  | runScript (script : Script.Name) (args : Script.Arguments)
  | dropDatabase (name : String)
  | setupTemplate
  | setupApiDatabase
  | setupUnknownDatabase
  | setupDatabase
  | teardown (session : Option Session)
  | nextCoverageFile

/-- What an operation returns if it succeeds. -/
inductive Reply (Session : Type) where
  | done
  | opened (session : Session)
  | file (path : Option String)

namespace Operation

open Fixture Work

variable {σ Session : Type} (p : Plan) (B : Backend σ Session)

def perform : Operation Session → Work σ (Reply Session)
  | writeConfig database => do
    Fixture.writeConfig p B database
    return .done
  | runScript script args => do
    Fixture.runScript p B script args
    return .done
  | dropDatabase name => do
    Fixture.dropDatabase B name
    return .done
  | setupTemplate => do
    Fixture.setupTemplate p B
    return .done
  | setupApiDatabase => do
    Fixture.setupApiDatabase p B
    return .done
  | setupUnknownDatabase => do
    Fixture.setupUnknownDatabase p B
    return .done
  | setupDatabase => do
    return .opened (← Fixture.setupDatabase p B)
  | teardown session => do
    Fixture.teardown p B session
    return .done
  | nextCoverageFile => do
    return .file (← Fixture.nextCoverageFile p B)

def run : List (Operation Session) → Bench σ → List (Except Failure (Reply Session)) × Bench σ
  | [], b => ([], b)
  | op :: ops, b =>
    let (result, b) := op.perform p B b
    let (results, b) := run ops b
    (result :: results, b)

variable {p B}

theorem run_nil (b : Bench σ) : run p B [] b = ([], b) :=
  rfl

theorem run_cons (op : Operation Session) (ops : List (Operation Session)) (b : Bench σ) :
    run p B (op :: ops) b =
      ((op.perform p B b).1 :: (run p B ops (op.perform p B b).2).1,
        (run p B ops (op.perform p B b).2).2) :=
  rfl

/-- What every operation keeps, every run keeps. -/
theorem run_keeps {I : Bench σ → Prop} {ops : List (Operation Session)}
    (step : ∀ op ∈ ops, Keeps I (op.perform p B)) {b : Bench σ} (h : I b) :
    I (run p B ops b).2 := by
  induction ops generalizing b with
  | nil => exact h
  | cons op ops ih =>
    exact ih (fun o ho => step o (List.mem_cons_of_mem op ho)) (step op List.mem_cons_self b h)

end Operation

namespace Fixture

/-! ## What operations are composed of -/

open Work

variable {σ Session : Type} {p : Plan} {B : Backend σ Session} {C : {α : Type} → Work σ α → Prop}
  (closed : Closed C)

include closed

theorem closed_runScript {script : Script.Name} {args : Script.Arguments}
    (run : ∀ i, C (running (B.runScript i))) : C (runScript p B script args) := by
  refine closed.bind (closed.look _) fun reading => ?_
  split
  · exact closed.throw _
  · exact closed.bind closed.fixture fun _ => closed.bind (closed.attempt (run _)) fun
      | .ok () => closed.pure ()
      | .error cause => closed.throw (.script script cause)

theorem closed_leaveWebsite (remove : ∀ path, C (change (B.removeDirectory path)))
    (leave : C (setFixture fun s => { s with website := none })) : C (leaveWebsite B) := by
  refine closed.bind closed.fixture fun s => ?_
  cases s.website with
  | none => exact closed.pure ()
  | some path => exact closed.bind (remove path) fun _ => leave

theorem closed_makeWebsite {environment : Dictionary}
    (make : C (doing .websiteDirectory (B.makeDirectory websiteStem)))
    (write : ∀ file content, C (doing (.dotenv file) (B.writeFile file content)))
    (remove : ∀ path, C (change (B.removeDirectory path))) : C (makeWebsite B environment) :=
  closed.bind make fun path => closed.bind (closed.attempt (write _ _)) fun
    | .ok () => closed.pure path
    | .error e => closed.bind (remove path) fun _ => closed.throw e

theorem closed_writeConfig {database : String} (leave : C (leaveWebsite B))
    (make : ∀ environment, C (makeWebsite B environment))
    (settle : ∀ environment path, C (setFixture fun s =>
      { s with environment := some environment, website := some path }))
    (setUp : C (runScript p B .setup { flags := ["setup-website"] })) :
    C (writeConfig p B database) := by
  refine closed.bind closed.fixture fun s => ?_
  split
  · exact closed.tell (by decide)
  · refine closed.bind leave fun _ => closed.bind (make _) fun path =>
      closed.bind (closed.tell (by decide)) fun _ => closed.bind (settle _ path) fun _ =>
      closed.bind (closed.attempt setUp) fun
      | .ok () => closed.pure ()
      | .error e => closed.bind leave fun _ => closed.throw e

theorem closed_importNothing (make : C (doing .osmFile (B.makeFile osmStem osmEnding)))
    (write : ∀ path content, C (doing .osmContent (B.writeFile path content)))
    (fill : ∀ args, C (runScript p B .setup args))
    (remove : ∀ path, C (change (B.removeFile path))) : C (importNothing p B) :=
  closed.bind make fun path =>
    closed.finally_ (closed.bind (write path emptyOsm) fun _ => fill _) (remove path)

theorem closed_dropDatabase {name : String} (drop : C (act (B.dropDatabase name))) :
    C (dropDatabase B name) :=
  closed.bind (closed.tell (by decide)) fun _ => drop

theorem closed_buildTemplate {template : String} (write : C (writeConfig p B template))
    (create : C (runScript p B .setup { flags := ["create-db", "setup-db"] }))
    (truncate : C (act (B.truncateTables template externalTables)))
    (fill : C (importNothing p B)) : C (buildTemplate p B template) :=
  closed.bind write fun _ => closed.bind create fun _ => closed.bind truncate fun _ =>
    closed.bind (closed_forIn_tell closed (by simp [Log.info, announcement]) _) fun _ => fill

theorem closed_rebuildTemplate {template : String} (announce : ∀ r, C (tell r))
    (build : C (buildTemplate p B template))
    (ready : C (setFixture fun s => { s with templateReady := true }))
    (drop : C (act (B.dropDatabase template))) : C (rebuildTemplate p B template) := by
  refine closed.bind (announce _) fun _ => closed.bind (closed.attempt build) fun
    | .ok () => closed.bind ready fun _ => closed.tell (by decide)
    | .error e => closed.bind (closed.tell (by decide)) fun _ =>
      closed.bind (closed.attempt drop) fun
      | .ok () => closed.throw e
      | .error _ => closed.bind (closed.tell (by decide)) fun _ => closed.throw e

theorem closed_setupTemplate (announce : ∀ r, C (tell r))
    (lookUp : C (act (B.databaseExists p.config.templateDatabase)))
    (drop : C (act (B.dropDatabase p.config.templateDatabase)))
    (ready : C (setFixture fun s => { s with templateReady := true }))
    (build : C (buildTemplate p B p.config.templateDatabase)) : C (setupTemplate p B) := by
  have rebuild := closed_rebuildTemplate closed announce build ready drop
  refine closed.bind closed.fixture fun s => ?_
  split
  · exact closed.pure ()
  split
  · refine closed.bind lookUp fun found => ?_
    split
    · exact closed.bind (closed.tell (by decide)) fun _ => ready
    · exact rebuild
  · exact closed.bind (closed_dropDatabase closed drop) fun _ => rebuild

theorem closed_teardown {session : Option Session}
    (close : ∀ s, session = some s → C (change (B.closeSession s)))
    (drop : p.config.keepTestDatabase = false → C (act (B.dropDatabase p.config.testDatabase))) :
    C (teardown p B session) := by
  have clear : C (if p.config.keepTestDatabase then
        tell (Log.info "keeping scenario database" [("database", p.config.testDatabase)])
      else dropDatabase B p.config.testDatabase) := by
    split
    · exact closed.tell (by decide)
    · rename_i keep
      exact closed_dropDatabase closed (drop (by simpa using keep))
  cases session with
  | none => exact clear
  | some s => exact closed.bind (close s rfl) fun _ => clear

theorem closed_copyTemplate (drop : C (act (B.dropDatabase p.config.testDatabase)))
    (create : C (act (B.createDatabase p.config.testDatabase p.config.templateDatabase)))
    (connect : C (act (B.openSession p.config.testDatabase))) : C (copyTemplate p B) := by
  refine closed.bind drop fun _ => closed.bind create fun _ =>
    closed.bind (closed.tell (by decide)) fun _ => closed.bind (closed.attempt connect) fun
    | .ok session => closed.pure session
    | .error e => closed.bind (closed.attempt (closed_teardown closed nofun fun _ => drop)) fun
      | .ok () => closed.throw e
      | .error _ => closed.bind (closed.tell (by decide)) fun _ => closed.throw e

theorem closed_setupDatabase (template : C (setupTemplate p B))
    (write : C (writeConfig p B p.config.testDatabase))
    (drop : C (act (B.dropDatabase p.config.testDatabase)))
    (create : C (act (B.createDatabase p.config.testDatabase p.config.templateDatabase)))
    (connect : C (act (B.openSession p.config.testDatabase))) : C (setupDatabase p B) :=
  closed.bind template fun _ => closed.bind write fun _ =>
    closed_copyTemplate closed drop create connect

/-- Scripts and drops of one's own are the only operations whose arguments may matter. -/
theorem closed_perform {op : Operation Session} (write : ∀ database, C (writeConfig p B database))
    (script : ∀ script args, op = .runScript script args → C (runScript p B script args))
    (drop : ∀ name, op = .dropDatabase name → C (act (B.dropDatabase name)))
    (template : C (setupTemplate p B)) (scenario : C (setupDatabase p B))
    (clear : ∀ session, C (teardown p B session))
    (number : op = .nextCoverageFile → C (nextCoverageFile p B)) :
    C (op.perform p B) := by
  cases op with
  | writeConfig | setupApiDatabase | setupUnknownDatabase =>
    exact closed.bind (write _) fun _ => closed.pure _
  | runScript name args => exact closed.bind (script name args rfl) fun _ => closed.pure _
  | dropDatabase name =>
    exact closed.bind (closed_dropDatabase closed (drop name rfl)) fun _ => closed.pure _
  | setupTemplate => exact closed.bind template fun _ => closed.pure _
  | setupDatabase => exact closed.bind scenario fun _ => closed.pure _
  | teardown session => exact closed.bind (clear session) fun _ => closed.pure _
  | nextCoverageFile => exact closed.bind (number rfl) fun _ => closed.pure _

/-! ## Work that may ask the server for anything -/

section Server

variable (server : ∀ {α : Type} {a : Action σ α} (event : Except Failure α → Event Session),
  (∀ w, B.Happens w (event (a w).1) (a w).2) → (∀ x, (event x).isDatabase = true) → C (act a))

include server

theorem closed_setupTemplate_server (announce : ∀ r, C (tell r))
    (ready : C (setFixture fun s => { s with templateReady := true }))
    (write : C (writeConfig p B p.config.templateDatabase))
    (create : C (runScript p B .setup { flags := ["create-db", "setup-db"] }))
    (fill : C (importNothing p B)) : C (setupTemplate p B) :=
  closed_setupTemplate closed announce
    (server (.lookedUp p.config.templateDatabase) (fun _ => rfl) fun _ => rfl)
    (server (.dropped p.config.templateDatabase) (fun _ => rfl) fun _ => rfl) ready
    (closed_buildTemplate closed write create
      (server (.truncated p.config.templateDatabase externalTables) (fun _ => rfl) fun _ => rfl)
      fill)

theorem closed_copyTemplate_server : C (copyTemplate p B) :=
  closed_copyTemplate closed
    (server (.dropped p.config.testDatabase) (fun _ => rfl) fun _ => rfl)
    (server (.created p.config.testDatabase p.config.templateDatabase) (fun _ => rfl) fun _ => rfl)
    (server (.opened p.config.testDatabase) (fun _ => rfl) fun _ => rfl)

theorem closed_setupDatabase_server (template : C (setupTemplate p B))
    (write : C (writeConfig p B p.config.testDatabase)) : C (setupDatabase p B) :=
  closed.bind template fun _ => closed.bind write fun _ => closed_copyTemplate_server closed server

theorem closed_perform_server (op : Operation Session) (announce : ∀ r, C (tell r))
    (ready : C (setFixture fun s => { s with templateReady := true }))
    (write : ∀ database, C (writeConfig p B database))
    (script : ∀ script args, C (runScript p B script args)) (fill : C (importNothing p B))
    (close : ∀ s, C (change (B.closeSession s)))
    (number : op = .nextCoverageFile → C (nextCoverageFile p B)) :
    C (op.perform p B) := by
  have drop (name : String) : C (act (B.dropDatabase name)) :=
    server (.dropped name) (fun _ => rfl) fun _ => rfl
  have template : C (setupTemplate p B) :=
    closed_setupTemplate_server closed server announce ready (write _) (script _ _) fill
  exact closed_perform closed write (fun name args _ => script name args) (fun name _ => drop name)
    template (closed_setupDatabase_server closed server template (write _))
    (fun _ => closed_teardown closed (fun s _ => close s) fun _ => drop _) number

end Server

end Fixture

end Testbed
