import Testbed.Proofs.PlainWorld
import Testbed.Proofs.Template

/-!
# A template that is accepted was built

A fixture that starts on a server without the template only accepts one that it has completely
built and not dropped since. There is one way around this: where templates are reused, a failed
build may leave the database that it had made, if that could not be dropped either, and an attempt
that finds it takes it for a template.
-/

namespace Testbed

/-- Only scripts of one's own and drops of chosen databases are no routine. -/
def Operation.isRoutine {Session : Type} : Operation Session → Bool
  | runScript .. | dropDatabase _ => false
  | _ => true

namespace Fixture

open Work

variable {σ Session α : Type} {p : Plan} {B : Backend σ Session} {listed : σ → String → Prop}

/-- The event makes no database of the name. A script makes none unless its arguments say so. -/
def MakesNo (p : Plan) (name : String) : Event Session → Prop
  | .created new _ _ => new ≠ name
  | .ranScript i _ =>
    ∃ script args, i.command = p.command script args ∧ "--create-db" ∉ args.toWords
  | _ => True

/-- What is known of the list of databases: a look-up tells the truth, a drop that succeeds takes
a database off the list, and none comes onto it that was not made. -/
structure ServerView (p : Plan) (B : Backend σ Session) (listed : σ → String → Prop) : Prop where
  found : ∀ {name w w'}, B.databaseExists name w = (.ok true, w') → listed w' name
  dropped : ∀ {name w w'}, B.dropDatabase name w = (.ok (), w') → ¬ listed w' name
  kept : ∀ {name e w w'}, B.Happens w e w' → MakesNo p name e → listed w' name → listed w name

/-- A build was completed, and the template was not dropped since. -/
def Built (p : Plan) (events : List (Event Session)) : Prop :=
  ∃ before steps after, events = before ++ (steps ++ after) ∧ CompleteBuild p steps ∧
    ∀ e ∈ after, e.drop? ≠ some p.config.templateDatabase

/-- A build failed that had made the database, and so did the drop right after it. No drop has
succeeded since. All this happened after a start in the world `w`. -/
def LeftBehind (p : Plan) (B : Backend σ Session) (w : σ) (events : List (Event Session)) : Prop :=
  ∃ before attempt fault after m,
    events = before ++ (attempt ++ .dropped p.config.templateDatabase (.error fault) :: after) ∧
    B.Chain w before m ∧ FailedBuild p B m attempt ∧ (∃ e ∈ attempt, isCreation p e = true) ∧
    .dropped p.config.templateDatabase (.ok ()) ∉ after

/-- What a failed build had left behind was found by a look-up, and was not dropped since. -/
def Leftover (p : Plan) (B : Backend σ Session) (w : σ) (events : List (Event Session)) : Prop :=
  ∃ before after, events = before ++ .lookedUp p.config.templateDatabase (.ok true) :: after ∧
    LeftBehind p B w before ∧ ∀ e ∈ after, e.drop? ≠ some p.config.templateDatabase

def Acceptable (p : Plan) (B : Backend σ Session) (w : σ) (events : List (Event Session)) : Prop :=
  Built p events ∨ p.config.reuseTemplate = true ∧ Leftover p B w events

def Aside (p : Plan) (e : Event Session) : Prop :=
  e.drop? ≠ some p.config.templateDatabase ∧ MakesNo p p.config.templateDatabase e

variable {w : σ}

theorem Acceptable.append {events more : List (Event Session)} (h : Acceptable p B w events)
    (aside : ∀ e ∈ more, e.drop? ≠ some p.config.templateDatabase) :
    Acceptable p B w (events ++ more) := by
  rcases h with ⟨before, steps, after, rfl, complete, kept⟩ |
    ⟨reuse, before, after, rfl, left, kept⟩
  · refine .inl ⟨before, steps, after ++ more, by simp, complete, ?_⟩
    exact List.forall_mem_append.mpr ⟨kept, aside⟩
  · refine .inr ⟨reuse, before, after ++ more, by simp, left, ?_⟩
    exact List.forall_mem_append.mpr ⟨kept, aside⟩

theorem LeftBehind.append {events more : List (Event Session)} (h : LeftBehind p B w events)
    (kept : .dropped p.config.templateDatabase (.ok ()) ∉ more) :
    LeftBehind p B w (events ++ more) := by
  obtain ⟨before, attempt, fault, after, m, rfl, reached, failed, made, still⟩ := h
  refine ⟨before, attempt, fault, after ++ more, m, by simp, reached, failed, made, ?_⟩
  exact fun mem => (List.mem_append.mp mem).elim still kept

/-- After a start in the world `w`, the template is only marked as ready if it is acceptable, and
before that it can only be there if it was left behind. -/
structure Sound (p : Plan) (B : Backend σ Session) (listed : σ → String → Prop) (w : σ)
    (b : Bench (Chronicle σ Session)) : Prop where
  configured : b.fixture.Configured p
  reached : B.Chain w b.world.events b.world.world
  ready : b.fixture.templateReady = true → Acceptable p B w b.world.events
  present : b.fixture.templateReady = false → p.config.reuseTemplate = true →
    listed b.world.world p.config.templateDatabase → LeftBehind p B w b.world.events

theorem ServerView.chain_kept (server : ServerView p B listed) {name : String} {w' : σ}
    {es : List (Event Session)} (chain : B.Chain w es w') (none : ∀ e ∈ es, MakesNo p name e)
    (there : listed w' name) : listed w name := by
  refine Classical.byContradiction fun absent => ?_
  have missing : ¬ listed w' name :=
    chain.keeps (I := fun v => ¬ listed v name)
      (fun happens quiet => mt (server.kept happens quiet)) none absent
  exact missing there

/-- Events that have nothing to do with the template do no harm. -/
theorem Sound.aside (server : ServerView p B listed) {b b' : Bench (Chronicle σ Session)}
    {es : List (Event Session)} (h : Sound p B listed w b) (configured : b'.fixture.Configured p)
    (ready : b'.fixture.templateReady = b.fixture.templateReady)
    (chain : B.Chain b.world.world es b'.world.world)
    (events : b'.world.events = b.world.events ++ es) (aside : ∀ e ∈ es, Aside p e) :
    Sound p B listed w b' where
  configured := configured
  reached := events ▸ h.reached.append chain
  ready yes := by
    rw [events]
    exact (h.ready (ready ▸ yes)).append fun e he => (aside e he).1
  present no reuse there := by
    rw [events]
    have before := server.chain_kept chain (fun e he => (aside e he).2) there
    exact (h.present (ready ▸ no) reuse before).append fun mem => (aside _ mem).1 rfl

theorem sound_of_follows (server : ServerView p B listed) {x : Work (Chronicle σ Session) α}
    {Φ : Event Session → Prop} (follows : Follows p B.watched Φ x) (aside : ∀ e, Φ e → Aside p e)
    (ready : ∀ b, (x b).2.fixture.templateReady = b.fixture.templateReady) :
    Keeps (Sound p B listed w) x := by
  intro b h
  obtain ⟨es, course, chain, events, all⟩ := follows.watched b
  exact h.aside server (course.configured h.configured) (ready b) chain events
    fun e he => aside e (all e he)

theorem settling_aside (e : Event Session) (h : Settling p e) : Aside p e := by
  cases e with
  | ranScript i =>
    exact ⟨nofun, .setup, websiteArguments, h, by decide⟩
  | madeDirectory | wrote | removedDirectory => exact ⟨nofun, trivial⟩
  | _ => cases h

theorem sound_act (server : ServerView p B listed) {a : Action (Chronicle σ Session) α}
    (event : Except Failure α → Event Session)
    (happens : ∀ w, B.watched.Happens w (event (a w).1) (a w).2)
    (plain : ∀ x, (event x).isPlain = true) (aside : ∀ x, Aside p (event x)) :
    Keeps (Sound p B listed w) (act a) := by
  have follows : Follows p B.watched (Aside p) (act a) :=
    follows_act event happens fun x => ⟨plain x, aside x⟩
  exact sound_of_follows server follows (fun _ => id) fun _ => rfl

theorem sound_writeConfig (server : ServerView p B listed) (database : String) :
    Keeps (Sound p B listed w) (writeConfig p B.watched database) :=
  sound_of_follows server (follows_writeConfig database) settling_aside
    fun b => (writeConfig_written database b).ready

theorem TemplateSetUp.ready {b b' : Bench (Chronicle σ Session)}
    (h : TemplateSetUp p B b (.ok ()) b') : b'.fixture.templateReady = true := by
  cases h with
  | already ready | found _ ready | built ready => exact ready

/-- A failed build leaves nothing behind unless it had made the database. -/
theorem FailedBuild.leftBehind (server : ServerView p B listed) {m n v : σ} {fault : Failure}
    {before attempt : List (Event Session)} (build : FailedBuild p B n attempt)
    (reached : B.Chain w before m) (opened : B.Chain m (opening p) n)
    (chain : B.Chain m
      (opening p ++ (attempt ++ [.dropped p.config.templateDatabase (.error fault)])) v)
    (reuse : p.config.reuseTemplate = true) (there : listed v p.config.templateDatabase)
    (earlier : listed m p.config.templateDatabase → LeftBehind p B w before) :
    LeftBehind p B w (before ++
      (opening p ++ (attempt ++ [.dropped p.config.templateDatabase (.error fault)]))) := by
  have first : (opening p : List (Event Session)) =
      [.lookedUp p.config.templateDatabase (.ok false)] := if_pos reuse
  rcases build.ordered with made | settling
  · exact ⟨before ++ opening p, attempt, fault, [], n, by simp, reached.append opened, build, made,
      nofun⟩
  -- there was nothing but the website, so the template was there before
  · refine (earlier (server.chain_kept chain ?_ there)).append ?_
    · rw [first]
      simp only [List.forall_mem_append, List.forall_mem_singleton]
      exact ⟨trivial, fun e mem => (settling_aside e (settling e mem)).2, trivial⟩
    · rw [first]
      simp only [List.mem_append, List.mem_singleton]
      rintro (looked | mem | dropped)
      · cases looked
      · exact (settling_aside _ (settling _ mem)).1 rfl
      · cases dropped

theorem TemplateSetUp.sound (server : ServerView p B listed) {r : Except Failure Unit}
    {b b' : Bench (Chronicle σ Session)} (setUp : TemplateSetUp p B b r b')
    (h : Sound p B listed w b) (before : b.fixture.templateReady = false)
    (configured : b'.fixture.Configured p)
    (chained : ∃ es, B.Chain b.world.world es b'.world.world ∧
      b'.world.events = b.world.events ++ es) : Sound p B listed w b' := by
  obtain ⟨es, chain, noted⟩ := chained
  have reached : B.Chain w b'.world.events b'.world.world := noted ▸ h.reached.append chain
  have unready (no : b'.fixture.templateReady = false)
      (present : p.config.reuseTemplate = true →
        listed b'.world.world p.config.templateDatabase → LeftBehind p B w b'.world.events) :
      Sound p B listed w b' :=
    ⟨configured, reached, fun yes => (Bool.false_ne_true (no.symm.trans yes)).elim,
      fun _ => present⟩
  have sure (yes : b'.fixture.templateReady = true)
      (acceptable : Acceptable p B w b'.world.events) : Sound p B listed w b' :=
    ⟨configured, reached, fun _ => acceptable,
      fun no => (Bool.false_ne_true (no.symm.trans yes)).elim⟩
  have same {fs} (events : b'.world.events = b.world.events ++ fs) :
      B.Chain b.world.world fs b'.world.world := by
    rwa [← List.append_cancel_left (noted.symm.trans events)]
  cases setUp with
  | already => exact h
  | notLookedUp reuse no events =>
    refine unready no fun _ there => ?_
    have earlier := server.chain_kept (same events) (by simp [MakesNo]) there
    exact events ▸ (h.present before reuse earlier).append (by simp)
  | found reuse yes events =>
    obtain _ | ⟨happens, _ | _⟩ := same events
    have earlier := server.kept happens trivial (server.found happens)
    exact sure yes (.inr ⟨reuse, _, [], events, h.present before reuse earlier, nofun⟩)
  | notDropped always no =>
    exact unready no fun reuse => (Bool.false_ne_true (always.symm.trans reuse)).elim
  | @built front steps _ yes events complete =>
    refine sure yes (.inl ⟨b.world.events ++ (opening p ++ front), steps, [], ?_, complete, nofun⟩)
    simp [events]
  | @failed attempt answer e _ _ no events opened build =>
    refine unready no fun reuse there => ?_
    cases answer with
    | error fault =>
      rw [events]
      exact build.leftBehind server h.reached opened (same events) reuse there
        (h.present before reuse)
    | ok _ =>
      -- The drop was the last event, so there is no template.
      obtain ⟨_, -, tail⟩ := (same events).of_append
      obtain ⟨_, -, _ | ⟨happens, _ | _⟩⟩ := tail.of_append
      exact (server.dropped happens there).elim

theorem setupTemplate_ready {b : Bench σ} (ready : b.fixture.templateReady = true) :
    setupTemplate p B b = (.ok (), b) := by
  rw [setupTemplate, bind_apply, fixture_apply]
  exact congrFun (if_pos ready) b

theorem sound_setupTemplate (server : ServerView p B listed) :
    Keeps (Sound p B listed w) (setupTemplate p B.watched) := by
  intro b h
  cases before : b.fixture.templateReady with
  | true => rwa [setupTemplate_ready before]
  | false =>
    have chained : (setupTemplate p B.watched).Gives b _ := follows_setupTemplate.watched b
    obtain ⟨es, course, chain, noted, -⟩ := chained
    exact (setupTemplate_setUp h.configured).sound server h before
      (course.configured h.configured) ⟨es, chain, noted⟩

theorem closed_sound (p : Plan) (B : Backend σ Session) (listed : σ → String → Prop) (w : σ) :
    Closed (Keeps (Sound p B listed w : Bench (Chronicle σ Session) → Prop)) :=
  closed_keeps fun _ _ h => ⟨h.configured, h.reached, h.ready, h.present⟩

section Scenario

variable (server : ServerView p B listed)
  (differ : p.config.testDatabase ≠ p.config.templateDatabase)

include server differ

theorem sound_drop :
    Keeps (Sound p B listed w) (act (B.watched.dropDatabase p.config.testDatabase)) :=
  sound_act server (.dropped p.config.testDatabase) (fun _ => rfl) (fun _ => rfl)
    fun _ => ⟨fun same => differ (Option.some.inj same), trivial⟩

theorem sound_teardown (session : Option Session) :
    Keeps (Sound p B listed w) (teardown p B.watched session) := by
  refine closed_teardown (closed_sound p B listed w) (fun s _ => ?_) fun _ =>
    sound_drop server differ
  exact sound_of_follows server
    (follows_change (Φ := fun e => e = .closed s) (.closed s) (fun _ => rfl) rfl rfl)
    (fun e h => h ▸ ⟨nofun, trivial⟩) fun _ => rfl

theorem sound_setupDatabase : Keeps (Sound p B listed w) (setupDatabase p B.watched) := by
  refine closed_setupDatabase (closed_sound p B listed w) (sound_setupTemplate server)
    (sound_writeConfig server _) (sound_drop server differ) ?_ ?_
  · exact sound_act server (.created p.config.testDatabase p.config.templateDatabase)
      (fun _ => rfl) (fun _ => rfl) fun _ => ⟨nofun, differ⟩
  · exact sound_act server (.opened p.config.testDatabase) (fun _ => rfl) (fun _ => rfl)
      fun _ => ⟨nofun, trivial⟩

/-- No routine operation makes a template acceptable that is not. -/
theorem sound_perform {op : Operation Session} (routine : op.isRoutine = true) :
    Keeps (Sound p B listed w) (op.perform p B.watched) := by
  refine closed_perform (closed_sound p B listed w) (sound_writeConfig server) ?_ ?_
    (sound_setupTemplate server) (sound_setupDatabase server differ) (sound_teardown server differ)
    (fun _ => keeps_nextCoverageFile fun _ _ h =>
      ⟨h.configured, h.reached, h.ready, h.present⟩)
  · rintro _ _ rfl
    cases routine
  · rintro _ rfl
    cases routine

end Scenario

/-- Once the template is ready, a scenario database is made as if it always had been. -/
theorem setupDatabase_ready {b m : Bench σ} (setUp : setupTemplate p B b = (.ok (), m))
    (ready : m.fixture.templateReady = true) : setupDatabase p B b = setupDatabase p B m := by
  unfold setupDatabase
  rw [bind_apply, setUp, bind_apply, setupTemplate_ready ready]

theorem keeps_ready_setupDatabase :
    Keeps (fun b => b.fixture.templateReady = true) (setupDatabase p B.watched) := by
  intro b ready
  obtain ⟨_, course, -⟩ := follows_setupDatabase (p := p) (B := B.watched) b
  exact course.ready ready

theorem config_differ {c : Config} (valid : c.fault? = none) :
    c.testDatabase ≠ c.templateDatabase := by
  intro same
  grind [Config.fault?]

end Fixture

namespace PlainWorld

open Fixture

theorem mem_command {p : Plan} {script : Script.Name} {args : Script.Arguments} {word : String} :
    word ∈ p.command script args ↔ word ∈ p.command script {} ∨ word ∈ args.toWords := by
  simp [Plan.command, Script.Arguments.toWords, or_assoc]

theorem serverView {p : Plan} (silent : ∀ script, "--create-db" ∉ p.command script {}) :
    ServerView p backend fun w name => name ∈ w.databases where
  found := mem_of_exists
  dropped := not_mem_of_drop
  kept {name e w w'} happens none := by
    cases e <;> simp only [Backend.Happens, backend, stage] at happens
    case lookedUp | truncated | opened | madeDirectory | madeFile | wrote =>
      exact request_keeps (P := fun w' => name ∈ w'.databases → name ∈ w.databases) happens
        (fun _ => id) fun _ => id
    case closed | removedDirectory | removedFile => subst happens; exact id
    case dropped =>
      refine request_keeps (P := fun w' => name ∈ w'.databases → name ∈ w.databases) happens
        (fun _ => id) fun _ there => ?_
      exact (List.mem_filter.mp there).1
    case created new template answer =>
      refine request_keeps (P := fun w' => name ∈ w'.databases → name ∈ w.databases) happens
        (fun _ => id) fun _ => ?_
      split
      · intro there
        obtain old | same := List.mem_append.mp there
        · exact old
        · exact (none (List.mem_singleton.mp same).symm).elim
      · exact id
    case ranScript i answer =>
      obtain ⟨script, args, command, quiet⟩ := none
      have unmade : "--create-db" ∉ i.command := by
        rw [command, mem_command]
        exact not_or.mpr ⟨silent script, quiet⟩
      obtain ⟨records, ran⟩ := happens
      refine request_keeps (P := fun w' => name ∈ w'.databases → name ∈ w.databases)
        (request_of_runScript ran) (fun _ => id) fun _ => ?_
      rw [served, if_neg unmade]
      exact id

end PlainWorld

namespace Fixture

open Work

variable {σ Session : Type} {p : Plan} {B : Backend σ Session} {listed : σ → String → Prop}

/-- Whatever routine came before on a server that did not have the template, a template is only
accepted if there is reason to, be it by itself or for a scenario. -/
theorem setupTemplate_sound (server : ServerView p B listed) (valid : p.config.fault? = none)
    {w : σ} (absent : ¬ listed w p.config.templateDatabase) {ops : List (Operation Session)}
    (routine : ∀ op ∈ ops, op.isRoutine = true) :
    let b := (Operation.run p B.watched ops { world := { world := w } }).2
    ((setupTemplate p B.watched).Gives b fun r b' =>
      r = .ok () → Acceptable p B w b'.world.events) ∧
    (setupDatabase p B.watched).Gives b fun r b' =>
      ∀ session, r = .ok session → Acceptable p B w b'.world.events := by
  intro b
  have differ := config_differ valid
  have start : Sound p B listed w { world := { world := w } : Bench (Chronicle σ Session) } :=
    ⟨nofun, .nil, nofun, fun _ _ there => (absent there).elim⟩
  have sound : Sound p B listed w b :=
    Operation.run_keeps (fun op h => sound_perform server differ (routine op h)) start
  have setUp : (setupTemplate p B.watched).Gives b (TemplateSetUp p B b) :=
    setupTemplate_setUp sound.configured
  have soundAfter := sound_setupTemplate server b sound
  have accepted (ok : (setupTemplate p B.watched b).1 = .ok ()) :
      (setupTemplate p B.watched b).2.fixture.templateReady = true := by
    unfold Gives at setUp
    rw [ok] at setUp
    exact setUp.ready
  refine ⟨fun ok => soundAfter.ready (accepted ok), fun session ok => ?_⟩
  unfold Gives at *
  rcases stage : setupTemplate p B.watched b with ⟨e | ⟨⟩, m⟩ <;> rw [stage] at accepted soundAfter
  · rw [setupDatabase, bind_apply, stage] at ok
    cases ok
  · have ready := accepted rfl
    rw [setupDatabase_ready stage ready] at ok ⊢
    exact (sound_setupDatabase server differ m soundAfter).ready
      (keeps_ready_setupDatabase m ready)

/-- The import fails at first, and the second attempt succeeds. -/
theorem setupTemplate_sound_after_failure :
    let world : PlainWorld := { troubles := List.replicate 8 false ++ [true] }
    let b := (Operation.run PlainWorld.plan PlainWorld.backend.watched [.setupTemplate]
      { world := { world } }).2
    let again := setupTemplate PlainWorld.plan PlainWorld.backend.watched b
    b.fixture.templateReady = false ∧ again.1 = .ok () ∧
      Acceptable PlainWorld.plan PlainWorld.backend world again.2.world.events :=
  have silent (script : Script.Name) : "--create-db" ∉ PlainWorld.plan.command script {} := by
    cases script <;> decide +kernel
  have again := eq_ok_of_isOk (by decide +kernel)
  ⟨by decide +kernel, again,
    (setupTemplate_sound (PlainWorld.serverView silent) (by decide +kernel) (by decide)
      (by decide)).1 again⟩

theorem Built.truncated {events : List (Event Session)} (h : Built p events) :
    (events.any fun | .truncated _ _ (.ok _) => true | _ => false) = true := by
  obtain ⟨before, _, after, rfl, ⟨⟩, -⟩ := h
  simp

/-- The tables could not be emptied, and the database could not be dropped either. -/
def leftover : Rehearsal.Recorder where
  databases := []
  tables := []
  rules := [
    { pattern := "truncate tmpl", error := "gone", times := 1 },
    { pattern := "drop tmpl", error := "gone", times := 1 }]
  disk := { files := Rehearsal.FileTree.makeDirectories ⟨[]⟩ ["t"], temporary := "/t" }

/-- The second attempt takes what the first one left for a template. -/
theorem leftover_is_accepted :
    let b := (Operation.run PlainWorld.plan Rehearsal.Recorder.backend.watched [.setupTemplate]
      { world := { world := leftover } }).2
    let again := setupTemplate PlainWorld.plan Rehearsal.Recorder.backend.watched b
    PlainWorld.plan.config.fault? = none ∧ leftover.databases = [] ∧ again.1 = .ok () ∧
      ¬ Built PlainWorld.plan again.2.world.events := by
  refine ⟨by decide +kernel, rfl, eq_ok_of_isOk (by decide +kernel), fun built => ?_⟩
  have truncated := built.truncated
  revert truncated
  decide +kernel

end Fixture

end Testbed
