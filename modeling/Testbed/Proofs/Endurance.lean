import Testbed.Program
import Testbed.Proofs.Ledger
import Testbed.Proofs.Pieces
import Testbed.Proofs.Readiness
import Testbed.Proofs.Rehearsal
import Testbed.Proofs.Resolution

/-!
# A template outlives the tool

Every run of the tool starts without knowing whether there is a template. Where templates are reused
it finds the one on the server, so it never builds another one. All that is left to drop is the
scenario database, whose name is another one. So a template stays, however often the tool is run and
whatever fails.
-/

namespace Testbed

namespace Command

open Fixture Work Live

/-- A process that the command is told to start: a script with the words that are passed on, or the
program of a scenario. -/
def Told (p : Plan) : Command → Script.Invocation → Prop
  | runScript script _ tokens, i =>
    ∃ args, Script.Arguments.ofTokens tokens = .ok args ∧ i.command = p.command script args
  | scenario _ _ command, i => i.command = command
  | setupTemplate, _ | setupDatabase, _ | teardownDatabase, _ | dropDatabase _, _
  | writeConfig _, _ => False

/-- The deeds of a command that leaves a template as it is. Apart from what it is told to start, it
only runs the set-up of a website. -/
def Permits (p : Plan) (c : Command) : Deed → Prop
  | .statement s => s ≠ .dropDatabase p.config.templateDatabase
  | .process i => i.command = p.command .setup websiteArguments ∨ c.Told p i

variable {σ Client : Type} {S : System σ Client} {params : Connection.Params} {p : Plan}
  {c : Command} {I : σ → Prop}

theorem settling_granted (e : Event Client) (h : Settling p e) : Grants (c.Permits p) e := by
  cases e with
  | ranScript i => exact .inl h
  | dropped | created | truncated => cases h
  | _ => trivial

section Operations

variable (guards : Guards S (c.Permits p) I)

include guards

theorem keeps_writeConfig (database : String) :
    Keeps (InWorld I) (Fixture.writeConfig p (stage S params).toBackend database) :=
  guards_follows guards (follows_writeConfig database) settling_granted

theorem keeps_leaveWebsite : Keeps (InWorld I) (leaveWebsite (stage S params).toBackend) :=
  guards_follows guards (follows_leaveWebsite (p := p)) settling_granted

theorem keeps_drop {name : String} (other : name ≠ p.config.templateDatabase) :
    Keeps (InWorld I) (act (Live.dropDatabase S params name)) := by
  intro b before
  refine guards_dropDatabase guards (fun same => ?_) before
  exact other (Sql.Statement.dropDatabase.inj same)

theorem keeps_teardown (differ : p.config.testDatabase ≠ p.config.templateDatabase)
    (session : Option Client) :
    Keeps (InWorld I) (teardown p (stage S params).toBackend session) :=
  closed_teardown (closed_inWorld I) (fun s _ _ before => guards.quiet (.disconnected s) before)
    fun _ => keeps_drop guards differ

variable (counted : ∀ {client n w w'}, I w →
  S.countDatabases client p.config.templateDatabase w = (.ok n, w') → n = 1)

include counted

/-- A template that is there is found, unless the server does not answer. -/
theorem template_found {found : Bool} {w w' : σ} (before : I w)
    (h : databaseExists S params p.config.templateDatabase w = (.ok found, w')) :
    found = true := by
  have connected : I (connect S params maintenanceDatabase w).2 :=
    guards_connect guards maintenanceDatabase before
  unfold databaseExists withClient at h
  split at h
  · cases h
  · rename_i client m connects
    rw [connects] at connected
    rcases answered : S.countDatabases client p.config.templateDatabase m with ⟨fault | n, m'⟩
    · simp only [asking, answered] at h
      cases (Prod.mk.inj h).1
    · obtain rfl : n = 1 := counted connected answered
      simp only [asking, answered] at h
      exact (Except.ok.inj (Prod.mk.inj h).1).symm

variable (reuse : p.config.removeTemplate = false)

include reuse

/-- A template that is there is not built. -/
theorem keeps_setupTemplate :
    Keeps (InWorld I) (Fixture.setupTemplate p (stage S params).toBackend) := by
  intro b before
  change (Fixture.setupTemplate p (stage S params).toBackend).Gives b fun _ b' => I b'.world
  unfold Fixture.setupTemplate
  rw [gives_fixture_bind]
  split
  · exact before
  split
  case isFalse always => simp [Config.reuseTemplate, reuse] at always
  case isTrue =>
  refine Gives.bind (P := fun r m => I m.world ∧ ∀ found, r = .ok found → found = true) ?_ ?_ ?_
  · have kept : I (databaseExists S params p.config.templateDatabase b.world).2 :=
      guards_databaseExists guards _ before
    exact ⟨kept, fun found answer => template_found guards counted before (Prod.ext answer rfl)⟩
  · rintro found m ⟨kept, sure⟩
    obtain rfl := sure found rfl
    exact kept
  · rintro e m ⟨kept, -⟩
    exact kept

variable (differ : p.config.testDatabase ≠ p.config.templateDatabase)

include differ

theorem keeps_setupDatabase :
    Keeps (InWorld I) (Fixture.setupDatabase p (stage S params).toBackend) := by
  refine closed_setupDatabase (closed_inWorld I) (keeps_setupTemplate guards counted reuse)
    (keeps_writeConfig guards _) (keeps_drop guards differ) ?_ ?_
  · exact fun _ before => guards_createDatabase guards nofun before
  · exact fun _ before => guards_connect guards _ before

end Operations

section Commands

variable (counted : ∀ {client n w w'}, I w →
    S.countDatabases client p.config.templateDatabase w = (.ok n, w') → n = 1)
  (reuse : p.config.removeTemplate = false)
  (differ : p.config.testDatabase ≠ p.config.templateDatabase)

include counted reuse differ

theorem keeps_perform (guards : Guards S (c.Permits p) I)
    (other : c ≠ .dropDatabase p.config.templateDatabase) :
    Keeps (InWorld I) (c.perform p (stage S params)) := by
  have clear : ∀ session, Keeps (InWorld I) (teardown p (stage S params).toBackend session) :=
    keeps_teardown guards differ
  apply closed_perform (closed_inWorld I)
  case write => exact keeps_writeConfig guards
  case template => exact fun _ => keeps_setupTemplate guards counted reuse
  case fresh => exact fun _ => keeps_setupDatabase guards counted reuse differ
  case leave => exact fun session _ before => guards.quiet (.disconnected session) before
  case clear => exact fun _ => clear none
  case remove => exact fun _ _ _ session => clear (some session)
  case drop =>
    rintro name rfl
    exact keeps_drop guards fun same => other (congrArg _ same)
  case script =>
    rintro script target tokens args rfl read
    refine guards_follows (Ψ := fun e => ∃ i answer, e = .ranScript i answer ∧
      i.command = p.command script args) guards
      (follows_runScript fun i answer command => ⟨i, answer, rfl, command⟩) ?_
    rintro _ ⟨i, answer, rfl, command⟩
    exact .inr ⟨args, read, command⟩
  case number => exact keeps_nextCoverageFile fun _ _ h => h
  case played =>
    rintro target directory command rfl place environment
    exact closed_play (closed_inWorld I) fun _ before =>
      guards_runCommand guards (.inr rfl) before

/-- A command leaves a template as it is, unless it is asked to drop it by name. -/
theorem keeps_run {workingDirectory : String} (guards : Guards S (c.Permits p) I)
    (planned : Plan.ofConfig p.config workingDirectory = .ok p)
    (other : c ≠ .dropDatabase p.config.templateDatabase) :
    Keeps (InWorld I) (Command.run (stage S params) p.config workingDirectory c) :=
  closed_run (closed_inWorld I) planned (keeps_perform counted reuse differ guards other)
    (keeps_leaveWebsite guards)

end Commands

end Command

/-! ## One run of the tool after the other -/

/-- A run of the tool: the command it carried out, the worlds before and after it, and the deeds in
between. -/
structure Episode (σ : Type) where
  command : Command
  before : σ
  deeds : List Deed
  after : σ

/-- The tool is run again and again with command lines that come to the same configuration. What
happens between two runs leaves the template on the server. -/
inductive Episodes {σ Client : Type} (S : System σ Client) (config : Config) (listed : σ → Prop) :
    σ → List (Episode σ) → Prop
  | nil {w} : Episodes S config listed w []
  | cons {w before arguments l out after episodes} (meanwhile : listed w → listed before)
      (parsed : CommandLine.parse (S.environment before) arguments = .ok l)
      (resolved : l.resolve (fun path => S.readFile path before) = .ok config)
      (ran : Program.run S.recorded arguments { world := before } = (out, after))
      (rest : Episodes S config listed after.world episodes) :
      Episodes S config listed w (⟨l.command, before, after.deeds, after.world⟩ :: episodes)

/-- The tool is run once more right away. -/
theorem Episodes.again {σ Client : Type} {S : System σ Client} {config : Config} {listed : σ → Prop}
    {before : σ} {arguments : List String} {l : CommandLine} {episodes : List (Episode σ)}
    (parsed : CommandLine.parse (S.environment before) arguments = .ok l)
    (resolved : l.resolve (fun path => S.readFile path before) = .ok config)
    (rest : Episodes S config listed
      (Program.run S.recorded arguments { world := before }).2.world episodes) :
    Episodes S config listed before
      (⟨l.command, before, (Program.run S.recorded arguments { world := before }).2.deeds,
        (Program.run S.recorded arguments { world := before }).2.world⟩ :: episodes) :=
  .cons id parsed resolved rfl rest

namespace Fixture

/-- A run of the setup script that makes the database, as a build starts with. -/
def Plan.Creates (p : Plan) (i : Script.Invocation) : Prop :=
  ∃ args, i.command = p.command .setup args ∧ "--create-db" ∈ args.toWords

theorem Plan.not_creates {p : Plan} {i : Script.Invocation}
    (h : i.command = p.command .setup websiteArguments) : ¬ p.Creates i := by
  rintro ⟨args, command, creates⟩
  have same : websiteArguments.toWords = args.toWords := by
    simpa [Plan.command, Script.Launcher.commandLine] using h.symm.trans command
  rw [← same] at creates
  revert creates
  decide

end Fixture

open Fixture Live Work

variable {σ Client : Type} {S : System σ Client} {listed : σ → Prop} {config : Config}

/-- One run of the tool leaves the template where it is. -/
theorem Program.run_kept (holds : S.Holds config.templateDatabase listed)
    (reuse : config.removeTemplate = false) {before : σ} (there : listed before)
    {arguments : List String} {l : CommandLine} {out : Outcome} {after : Ledger σ}
    (parsed : CommandLine.parse (S.environment before) arguments = .ok l)
    (resolved : l.resolve (fun path => S.readFile path before) = .ok config)
    (ran : Program.run S.recorded arguments { world := before } = (out, after))
    (other : l.command ≠ .dropDatabase config.templateDatabase)
    (harmless : ∀ p, Plan.ofConfig config (S.workingDirectory before) = .ok p →
      ∀ i, l.command.Permits p (.process i) → S.Harmless listed i) :
    ∃ p, Plan.ofConfig config (S.workingDirectory before) = .ok p ∧ p.config = config ∧
      listed after.world ∧ ∀ d ∈ after.deeds, l.command.Permits p d := by
  have valid := CommandLine.fault?_of_resolve resolved
  obtain ⟨p, planned, rfl⟩ := Plan.ofConfig_of_valid valid (S.workingDirectory before)
  let I : Ledger σ → Prop := fun ledger =>
    listed ledger.world ∧ ∀ d ∈ ledger.deeds, l.command.Permits p d
  have guards : Live.Guards S.recorded (l.command.Permits p) I := by
    rintro ledger deed ledger' request allowed ⟨held, permitted⟩
    obtain ⟨request, noted⟩ := request.of_recorded
    have still : listed ledger'.world := by
      generalize ledger'.world = after at request ⊢
      rcases deed with _ | s | i
      · exact holds.kept request nofun nofun held
      · refine holds.kept request nofun (fun same => ?_) held
        exact allowed _ rfl (Deed.statement.inj (Option.some.inj same))
      · cases request with
        | started => exact harmless p planned i (allowed _ rfl) _ held
    refine ⟨still, ?_⟩
    rw [noted]
    exact List.forall_mem_append.mpr ⟨permitted, by simpa using allowed⟩
  have counted : ∀ {client n} {ledger ledger' : Ledger σ}, I ledger →
      S.recorded.countDatabases client p.config.templateDatabase ledger = (.ok n, ledger') →
        n = 1 := by
    rintro client n ledger ledger' ⟨held, -⟩ answer
    have answered := (Prod.mk.inj answer).1
    exact holds.counted held (Prod.ext answered rfl)
  have keeps : Keeps (InWorld I) (Command.run (Live.stage S.recorded p.config.connection) p.config
      (S.workingDirectory before) l.command) :=
    Command.keeps_run counted reuse (config_differ valid) guards planned other
  have kept := keeps { world := { world := before } } ⟨there, nofun⟩
  have obeyed : Program.run S.recorded arguments { world := before } =
      Program.obey S.recorded l { world := before } := by
    rw [Program.run]
    simp only [System.recorded, parsed]
  rw [obeyed] at ran
  unfold Program.obey at ran
  simp only [System.recorded, resolved] at ran
  obtain ⟨-, rfl⟩ := Prod.mk.inj ran
  exact ⟨p, planned, rfl, kept⟩

/-- However often the tool is run and whatever fails, a template that is there stays, no statement
drops it, and no build of another one is started, except by what the tool is told to start. -/
theorem template_endures (holds : S.Holds config.templateDatabase listed)
    (reuse : config.removeTemplate = false) {w : σ} (there : listed w)
    {episodes : List (Episode σ)} (run : Episodes S config listed w episodes)
    (others : ∀ e ∈ episodes, e.command ≠ .dropDatabase config.templateDatabase)
    (harmless : ∀ e ∈ episodes, ∀ p, Plan.ofConfig config (S.workingDirectory e.before) = .ok p →
      ∀ i, e.command.Permits p (.process i) → S.Harmless listed i) :
    ∀ e ∈ episodes, listed e.after ∧
      .statement (.dropDatabase config.templateDatabase) ∉ e.deeds ∧
      ∃ p, Plan.ofConfig config (S.workingDirectory e.before) = .ok p ∧
        ∀ i, .process i ∈ e.deeds → p.Creates i → e.command.Told p i := by
  induction run with
  | nil => nofun
  | cons meanwhile parsed resolved ran _ ih =>
    obtain ⟨other, others⟩ := List.forall_mem_cons.mp others
    obtain ⟨tame, harmless⟩ := List.forall_mem_cons.mp harmless
    obtain ⟨p, planned, same, kept, permitted⟩ :=
      Program.run_kept holds reuse (meanwhile there) parsed resolved ran other tame
    refine List.forall_mem_cons.mpr
      ⟨⟨kept, fun dropped => ?_, p, planned, ?_⟩, ih kept others harmless⟩
    · exact permitted _ dropped (by rw [same])
    · intro i started creates
      exact (permitted _ started).resolve_left fun website => Plan.not_creates website creates

/-- The template is set up, a left-over scenario database is dropped, and a scenario fails. -/
theorem template_endures_rehearsed :
    let config : Config := { scriptCommand := "true" }
    let S := Rehearsal.Machine.system
    let listed : Rehearsal.Machine → Prop := fun m =>
      m.server.databases.count config.templateDatabase = 1
    let machine : Rehearsal.Machine :=
      { server := { socket := "/var/run/postgresql", databases := [config.templateDatabase] }
        disk := { files := Rehearsal.FileTree.standard, temporary := "/tmp" }
        environment := .empty }
    ∃ episodes, episodes.map Episode.command =
        [.setupTemplate, .dropDatabase config.testDatabase, .scenario .test "" ["false"]] ∧
      Episodes S config listed machine episodes ∧
      ∀ e ∈ episodes, listed e.after ∧
        .statement (.dropDatabase config.templateDatabase) ∉ e.deeds ∧
        ∃ p, Plan.ofConfig config (S.workingDirectory e.before) = .ok p ∧
          ∀ i, .process i ∈ e.deeds → p.Creates i → e.command.Told p i := by
  intro config S listed machine
  let line (command : Command) : CommandLine :=
    { log := { style := .text, threshold := .info }
      configFile := none
      overrides := { scriptCommand := some "true" }
      command }
  let ran (words : List String) (m : Rehearsal.Machine) : Ledger Rehearsal.Machine :=
    (Program.run S.recorded words { world := m }).2
  let words : List String := ["--script-command", "true"]
  let second := (ran (words ++ ["setup-template"]) machine).world
  let third := (ran (words ++ ["drop-db", "--name", "test_nominatim"]) second).world
  have first_parsed : CommandLine.parse (S.environment machine) (words ++ ["setup-template"]) =
      .ok (line .setupTemplate) := eq_ok_of_toOption (by decide +kernel)
  have second_parsed :
      CommandLine.parse (S.environment second) (words ++ ["drop-db", "--name", "test_nominatim"]) =
        .ok (line (.dropDatabase config.testDatabase)) := eq_ok_of_toOption (by decide +kernel)
  have third_parsed :
      CommandLine.parse (S.environment third) (words ++ ["scenario", "--", "false"]) =
        .ok (line (.scenario .test "" ["false"])) := eq_ok_of_toOption (by decide +kernel)
  have valid : ({} : Config).override { scriptCommand := some "true" } = .ok config :=
    eq_ok_of_toOption (by decide +kernel)
  have resolved (c : Command) (m : Rehearsal.Machine) :
      (line c).resolve (fun path => S.readFile path m) = .ok config :=
    (CommandLine.resolve_without_file _ rfl).trans valid
  obtain ⟨episodes, commands, run⟩ : ∃ episodes, episodes.map Episode.command =
      [.setupTemplate, .dropDatabase config.testDatabase, .scenario .test "" ["false"]] ∧
      Episodes S config listed machine episodes :=
    ⟨_, rfl, .again first_parsed (resolved _ _)
      (.again second_parsed (resolved _ _) (.again third_parsed (resolved _ _) .nil))⟩
  have others : ∀ e ∈ episodes, e.command ≠ .dropDatabase config.templateDatabase := by
    intro e he
    have mem : e.command ∈ episodes.map Episode.command := List.mem_map_of_mem he
    rw [commands] at mem
    revert mem
    generalize e.command = c
    revert c
    decide
  refine ⟨episodes, commands, run, ?_⟩
  exact template_endures (Rehearsal.Machine.holds _) rfl (by decide) run others
    fun _ _ _ _ i _ => Rehearsal.Machine.harmless _ i

end Testbed
