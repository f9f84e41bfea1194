import Testbed.Proofs.Masking
import Testbed.Proofs.Readiness

/-!
# A template that is set up is on the server

A fixture remembers that its template is ready, and does not look for it again. So the template is
there after every set-up that succeeds, if nobody drops it by name in the meantime. Besides, the
scripts have to find in their connection string the name that the server knows.
-/

namespace Testbed

namespace Connection

/-- The settings of a connection string start with a semicolon, if there are any. -/
theorem takeWhile_segments (settings : List (String × Option String)) :
    (String.join (settings.map segment)).toList.takeWhile (· ≠ ';') = [] := by
  induction settings with
  | nil => rfl
  | cons setting rest ih =>
    obtain ⟨name, value⟩ := setting
    cases value with
    | none => simpa [segment] using ih
    | some value => simp [segment]

/-- A connection string names its database, unless the name has a semicolon. -/
theorem Params.databaseOf_dsn (params : Params) {name : String} (plain : ';' ∉ name.toList) :
    Rehearsal.Recorder.databaseOf (params.dsn name) = name := by
  have list : (params.dsn name).toList =
      "pgsql:dbname=".toList ++
        (name.toList ++ (String.join (params.named.map segment)).toList) := by
    simp [Params.dsn]
  have all : ∀ c ∈ name.toList, decide (c ≠ ';') = true := by
    intro c hc
    exact decide_eq_true fun same => plain (same ▸ hc)
  have whole : (name.toList ++ (String.join (params.named.map segment)).toList).takeWhile
      (· ≠ ';') = name.toList := by
    rw [List.takeWhile_append_of_pos all, takeWhile_segments, List.append_nil]
  unfold Rehearsal.Recorder.databaseOf
  rw [list, Text.after?_append, Option.getD_some]
  exact (congrArg String.ofList whole).trans String.ofList_toList

end Connection

namespace Fixture

open Work

variable {σ Session α : Type} {p : Plan} {B : Backend σ Session} {listed : σ → String → Prop}

/-- What is known of the template on the server: a look-up that finds a database tells the truth, a
script that makes the database makes the one that its connection string names, and the template
stays until it is dropped. -/
structure TemplateView (p : Plan) (B : Backend σ Session) (listed : σ → String → Prop) :
    Prop where
  found : ∀ {name w w'}, B.databaseExists name w = (.ok true, w') → listed w' name
  made : ∀ {i args dsn w w'}, B.Happens w (.ranScript i (.ok ())) w' →
    i.command = p.command .setup args → "--create-db" ∈ args.toWords →
    i.environment.get? AppEnv.dsnName = some dsn →
    listed w' (Rehearsal.Recorder.databaseOf dsn)
  kept : ∀ {e w w'}, B.Happens w e w' → e.drop? ≠ some p.config.templateDatabase →
    listed w p.config.templateDatabase → listed w' p.config.templateDatabase

theorem TemplateView.chain_kept (view : TemplateView p B listed) {w w' : σ}
    {es : List (Event Session)} (chain : B.Chain w es w')
    (spared : ∀ e ∈ es, e.drop? ≠ some p.config.templateDatabase)
    (there : listed w p.config.templateDatabase) : listed w' p.config.templateDatabase :=
  chain.keeps (I := fun v => listed v p.config.templateDatabase) view.kept spared there

/-- A template that was completely built is there. -/
theorem TemplateView.chain_built (view : TemplateView p B listed)
    (plain : ';' ∉ p.config.templateDatabase.toList) {w w' : σ} {steps : List (Event Session)}
    (complete : CompleteBuild p steps) (chain : B.Chain w steps w') :
    listed w' p.config.templateDatabase := by
  cases complete with
  | intro =>
    obtain _ | ⟨creation, rest⟩ := chain
    have made := view.made creation rfl (by decide) (AppEnv.get?_dsnName _ _)
    rw [Connection.Params.databaseOf_dsn _ plain] at made
    exact view.chain_kept rest (by simp [Event.drop?]) made

/-- The template is there if it is marked as ready. -/
structure Present (p : Plan) (listed : σ → String → Prop) (b : Bench (Chronicle σ Session)) :
    Prop where
  configured : b.fixture.Configured p
  there : b.fixture.templateReady = true → listed b.world.world p.config.templateDatabase

theorem present_of_follows (view : TemplateView p B listed) {w : Work (Chronicle σ Session) α}
    {Φ : Event Session → Prop} (follows : Follows p B.watched Φ w)
    (spared : ∀ e, Φ e → e.drop? ≠ some p.config.templateDatabase)
    (ready : ∀ b, (w b).2.fixture.templateReady = b.fixture.templateReady) :
    Keeps (Present p listed) w := by
  intro b h
  obtain ⟨es, course, chain, -, all⟩ := follows.watched b
  refine ⟨course.configured h.configured, fun yes => ?_⟩
  have before := h.there (ready b ▸ yes)
  exact view.chain_kept chain (fun e he => spared e (all e he)) before

theorem settling_spared (e : Event Session) (h : Settling p e) :
    e.drop? ≠ some p.config.templateDatabase := by
  cases e with
  | dropped => cases h
  | _ => exact nofun

theorem present_writeConfig (view : TemplateView p B listed) (database : String) :
    Keeps (Present p listed) (writeConfig p B.watched database) :=
  present_of_follows view (follows_writeConfig database) settling_spared
    fun b => (writeConfig_written database b).ready

theorem present_act (view : TemplateView p B listed) {a : Action (Chronicle σ Session) α}
    (event : Except Failure α → Event Session)
    (happens : ∀ w, B.watched.Happens w (event (a w).1) (a w).2)
    (spared : ∀ x, (event x).isPlain = true ∧
      (event x).drop? ≠ some p.config.templateDatabase) :
    Keeps (Present p listed) (act a) :=
  present_of_follows view (follows_act event happens spared) (fun _ => id) fun _ => rfl

/-- However the set-up of the template ends, the template is there if it is marked as ready. -/
theorem TemplateSetUp.present (view : TemplateView p B listed)
    (plain : ';' ∉ p.config.templateDatabase.toList) {r : Except Failure Unit}
    {b b' : Bench (Chronicle σ Session)} (setUp : TemplateSetUp p B b r b')
    (h : Present p listed b) (configured : b'.fixture.Configured p)
    (chain : ∀ {fs}, b'.world.events = b.world.events ++ fs →
      B.Chain b.world.world fs b'.world.world) : Present p listed b' := by
  refine ⟨configured, fun yes => ?_⟩
  cases setUp with
  | already => exact h.there yes
  | notLookedUp _ no | notDropped _ no | failed no => cases no.symm.trans yes
  | found _ _ events =>
    obtain _ | ⟨happens, _ | _⟩ := chain events
    exact view.found happens
  | built _ events complete =>
    obtain ⟨_, -, afterOpening⟩ := (chain events).of_append
    obtain ⟨_, -, steps⟩ := afterOpening.of_append
    exact view.chain_built plain complete steps

theorem present_setupTemplate (view : TemplateView p B listed)
    (plain : ';' ∉ p.config.templateDatabase.toList) :
    Keeps (Present p listed) (setupTemplate p B.watched) := by
  intro b h
  have follows : Follows p B.watched (Preparing p) (setupTemplate p B.watched) :=
    follows_setupTemplate
  obtain ⟨_, course, -⟩ := follows.watched b
  exact (setupTemplate_setUp h.configured).present view plain h (course.configured h.configured)
    (follows.chain b)

theorem closed_present (p : Plan) (listed : σ → String → Prop) :
    Closed (Keeps (Present p listed : Bench (Chronicle σ Session) → Prop)) :=
  closed_keeps fun _ _ h => ⟨h.configured, h.there⟩

section Runs

variable (view : TemplateView p B listed) (differ : p.config.testDatabase ≠ p.config.templateDatabase)

include view differ

theorem present_drop :
    Keeps (Present p listed) (act (B.watched.dropDatabase p.config.testDatabase)) :=
  present_act view (.dropped p.config.testDatabase) (fun _ => rfl)
    fun _ => ⟨rfl, fun same => differ (Option.some.inj same)⟩

theorem present_teardown (session : Option Session) :
    Keeps (Present p listed) (teardown p B.watched session) := by
  refine closed_teardown (closed_present p listed) (fun s _ => ?_) fun _ => present_drop view differ
  exact present_of_follows view
    (follows_change (Φ := fun e => e = .closed s) (.closed s) (fun _ => rfl) rfl rfl)
    (fun e h => h ▸ nofun) fun _ => rfl

variable (plain : ';' ∉ p.config.templateDatabase.toList)

include plain

theorem present_setupDatabase : Keeps (Present p listed) (setupDatabase p B.watched) := by
  refine closed_setupDatabase (closed_present p listed) (present_setupTemplate view plain)
    (present_writeConfig view _) (present_drop view differ) ?_ ?_
  · exact present_act view (.created p.config.testDatabase p.config.templateDatabase)
      (fun _ => rfl) fun _ => ⟨rfl, nofun⟩
  · exact present_act view (.opened p.config.testDatabase) (fun _ => rfl) fun _ => ⟨rfl, nofun⟩

/-- Only an operation that drops the template by name can take it away. -/
theorem present_perform {op : Operation Session}
    (other : op ≠ .dropDatabase p.config.templateDatabase) :
    Keeps (Present p listed) (op.perform p B.watched) := by
  refine closed_perform (closed_present p listed) (present_writeConfig view) ?_ ?_
    (present_setupTemplate view plain) (present_setupDatabase view differ plain)
    (present_teardown view differ)
    (fun _ => keeps_nextCoverageFile fun _ _ h => ⟨h.configured, h.there⟩)
  · rintro script args -
    refine present_of_follows (Φ := fun e => e.drop? = none) view
      (follows_runScript fun _ _ _ => rfl)
      (fun e none => by simp [none]) fun b => ?_
    rw [runScript_fixture]
  · rintro name rfl
    refine present_act view (.dropped name) (fun _ => rfl) fun _ => ⟨rfl, fun same => ?_⟩
    exact other (congrArg _ (Option.some.inj same))

end Runs

theorem perform_dropDatabase_fixture (name : String) (b : Bench σ) :
    ((Operation.dropDatabase name).perform p B b).2.fixture = b.fixture := by
  have closed : Closed (Keeps fun m : Bench σ => m.fixture = b.fixture) :=
    closed_keeps fun _ _ same => same
  have dropped : Keeps (fun m : Bench σ => m.fixture = b.fixture) (dropDatabase B name) :=
    closed_dropDatabase closed fun _ same => same
  exact closed.bind dropped (fun _ => closed.pure _) b rfl

/-- Whenever the operations drop the template by name, it is not marked as ready. -/
def NeverDropsReady (p : Plan) (B : Backend σ Session) (ops : List (Operation Session)) (b : Bench σ) :
    Prop :=
  ∀ before after, ops = before ++ .dropDatabase p.config.templateDatabase :: after →
    (Operation.run p B before b).2.fixture.templateReady = false

theorem run_present (view : TemplateView p B listed)
    (differ : p.config.testDatabase ≠ p.config.templateDatabase)
    (plain : ';' ∉ p.config.templateDatabase.toList) {ops : List (Operation Session)}
    {b : Bench (Chronicle σ Session)} (spares : NeverDropsReady p B.watched ops b)
    (h : Present p listed b) : Present p listed (Operation.run p B.watched ops b).2 := by
  induction ops generalizing b with
  | nil => exact h
  | cons op ops ih =>
    have later : NeverDropsReady p B.watched ops (op.perform p B.watched b).2 := by
      intro before after split
      exact spares (op :: before) after (by rw [split, List.cons_append])
    have next : Present p listed (op.perform p B.watched b).2 := by
      by_cases drops : op = .dropDatabase p.config.templateDatabase
      · subst drops
        have unready : b.fixture.templateReady = false := spares [] ops rfl
        have same := perform_dropDatabase_fixture (p := p) (B := B.watched)
          p.config.templateDatabase b
        refine ⟨same ▸ h.configured, fun yes => ?_⟩
        rw [same, unready] at yes
        cases yes
      · exact present_perform view differ plain drops b h
    exact ih later next

/-- Whatever came before, a set-up that succeeds leaves the template on the server, if the template
was not dropped by name when it was ready. -/
theorem setupTemplate_present (view : TemplateView p B listed) (valid : p.config.fault? = none)
    (plain : ';' ∉ p.config.templateDatabase.toList) {w : σ} {ops : List (Operation Session)}
    (spares : NeverDropsReady p B.watched ops { world := { world := w } }) :
    let b := (Operation.run p B.watched ops { world := { world := w } }).2
    (setupTemplate p B.watched).Gives b fun r b' =>
      r = .ok () → listed b'.world.world p.config.templateDatabase := by
  intro b
  have start : Present p listed { world := { world := w } : Bench (Chronicle σ Session) } :=
    ⟨nofun, nofun⟩
  have present : Present p listed b := run_present view (config_differ valid) plain spares start
  have after := present_setupTemplate view plain b present
  have setUp : (setupTemplate p B.watched).Gives b (TemplateSetUp p B b) :=
    setupTemplate_setUp present.configured
  intro ok
  unfold Gives at setUp
  rw [ok] at setUp
  exact after.there setUp.ready

end Fixture

namespace PlainWorld

open Fixture

/-- A script that is asked for the database makes the one that its connection string names. -/
theorem mem_of_served {i : Script.Invocation} {dsn : String} {w w' : PlainWorld}
    (h : backend.Happens w (.ranScript i (.ok ())) w') (asked : "--create-db" ∈ i.command)
    (pointed : i.environment.get? AppEnv.dsnName = some dsn) :
    Rehearsal.Recorder.databaseOf dsn ∈ w'.databases := by
  obtain ⟨records, ran⟩ := h
  obtain ⟨rest, answer⟩ := request_ok (request_of_runScript ran)
  obtain ⟨-, rfl⟩ := Prod.mk.inj answer
  simp [served, asked, pointed]

theorem mem_served {name : String} {w : PlainWorld} (i : Script.Invocation)
    (there : name ∈ w.databases) : name ∈ (w.served i).databases := by
  unfold served
  split
  · exact List.mem_append_left _ there
  · exact there

/-- In a plain world a database stays until it is dropped. -/
theorem mem_of_happens {name : String} {e : Event String} {w w' : PlainWorld}
    (happens : backend.Happens w e w') (spared : e.drop? ≠ some name)
    (there : name ∈ w.databases) : name ∈ w'.databases := by
  revert there
  cases e <;> simp only [Backend.Happens, backend, stage] at happens
  case lookedUp | truncated | opened | madeDirectory | madeFile | wrote =>
    exact request_keeps (P := fun w' => name ∈ w.databases → name ∈ w'.databases) happens
      (fun _ => id) fun _ => id
  case closed | removedDirectory | removedFile => subst happens; exact id
  case dropped other answer =>
    refine request_keeps (P := fun w' => name ∈ w.databases → name ∈ w'.databases) happens
      (fun _ => id) fun _ there => ?_
    refine List.mem_filter.mpr ⟨there, decide_eq_true fun same => ?_⟩
    exact spared (congrArg some same.symm)
  case created new template answer =>
    refine request_keeps (P := fun w' => name ∈ w.databases → name ∈ w'.databases) happens
      (fun _ => id) fun _ there => ?_
    split
    · exact List.mem_append_left _ there
    · exact there
  case ranScript i answer =>
    obtain ⟨records, ran⟩ := happens
    refine request_keeps (P := fun w' => name ∈ w.databases → name ∈ w'.databases)
      (request_of_runScript ran) (fun _ => id) fun rest there => ?_
    exact mem_served (w := { w with troubles := rest }) i there

theorem templateView (p : Plan) :
    TemplateView p backend fun w name => name ∈ w.databases where
  found := mem_of_exists
  made h command asked pointed :=
    mem_of_served h (command ▸ mem_command.mpr (.inr asked)) pointed
  kept := mem_of_happens

end PlainWorld

namespace Fixture

open Work

/-- An old template is dropped before there is a fresh one, and then scenarios come and go. -/
theorem setupTemplate_present_twice :
    let ops : List (Operation String) :=
      [.dropDatabase "tmpl", .setupTemplate, .setupDatabase, .teardown none]
    let start : Bench (Chronicle PlainWorld String) :=
      { world := { world := { databases := ["tmpl"] } } }
    let b := (Operation.run PlainWorld.plan PlainWorld.backend.watched ops start).2
    NeverDropsReady PlainWorld.plan PlainWorld.backend.watched ops start ∧
      (setupTemplate PlainWorld.plan PlainWorld.backend.watched b).1 = .ok () ∧
      (setupTemplate PlainWorld.plan PlainWorld.backend.watched).Gives b fun r b' =>
        r = .ok () → "tmpl" ∈ b'.world.world.databases := by
  intro ops start b
  have spares : NeverDropsReady PlainWorld.plan PlainWorld.backend.watched ops start := by
    intro before after split
    cases before with
    | nil => rfl
    | cons op before =>
      obtain ⟨-, tail⟩ := List.cons.inj split
      have dropped : Operation.dropDatabase "tmpl" ∈
          ([.setupTemplate, .setupDatabase, .teardown none] : List (Operation String)) :=
        tail ▸ List.mem_append_right before List.mem_cons_self
      simp at dropped
  exact ⟨spares, eq_ok_of_isOk (by decide +kernel),
    setupTemplate_present (PlainWorld.templateView _) (by decide +kernel) (by decide) spares⟩

/-- There are two ways around: a template that is ready is dropped by name, and then it is not
missed; and a name with a semicolon is cut off in the connection string, so that the scripts make a
database of another name. -/
theorem template_missing :
    (let start : Bench (Chronicle PlainWorld String) := { world := { world := {} } }
      let b := (Operation.run PlainWorld.plan PlainWorld.backend.watched
        [.setupTemplate, .dropDatabase "tmpl"] start).2
      let again := setupTemplate PlainWorld.plan PlainWorld.backend.watched b
      PlainWorld.plan.config.fault? = none ∧
        TemplateView PlainWorld.plan PlainWorld.backend (fun w name => name ∈ w.databases) ∧
        again.1 = .ok () ∧ "tmpl" ∉ again.2.world.world.databases) ∧
    let p : Plan :=
      { PlainWorld.plan with
        config := { PlainWorld.plan.config with templateDatabase := "tm;pl" } }
    let start : Bench (Chronicle PlainWorld String) := { world := { world := {} } }
    let out := setupTemplate p PlainWorld.backend.watched start
    p.config.fault? = none ∧
      TemplateView p PlainWorld.backend (fun w name => name ∈ w.databases) ∧
      out.1 = .ok () ∧ "tm;pl" ∉ out.2.world.world.databases :=
  ⟨⟨by decide +kernel, PlainWorld.templateView _, eq_ok_of_isOk (by decide +kernel),
      by decide +kernel⟩,
    by decide +kernel, PlainWorld.templateView _, eq_ok_of_isOk (by decide +kernel),
    by decide +kernel⟩

end Fixture

end Testbed
