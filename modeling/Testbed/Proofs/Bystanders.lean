import Testbed.Proofs.Parts
import Testbed.Proofs.Presence

/-!
# Databases that a run leaves alone

The server is only asked about the scenario database, the template, and databases that are dropped
by name. The scenario database is only made from the template, and outside of such drops it only
goes when a scenario is set up or given up. So every other database is on the server after a run if
and only if it was before, apart from what the scripts make.
-/

namespace Testbed

def Event.databases {Session : Type} : Event Session → List String
  | lookedUp name _ | dropped name _ | truncated name _ _ | opened name _ => [name]
  | created name template _ => [name, template]
  | _ => []

theorem Event.isDatabase_of_mem {Session : Type} {e : Event Session} {name : String}
    (named : name ∈ e.databases) : e.isDatabase = true := by
  cases e <;> first | rfl | cases named

namespace Operation

variable {Session : Type}

def setsUp : Operation Session → Bool
  | setupTemplate | setupDatabase => true
  | _ => false

/-- Whether the operation only has to do with websites, scripts and coverage dumps. -/
def isLocal : Operation Session → Bool
  | writeConfig _ | runScript .. | setupApiDatabase | setupUnknownDatabase | nextCoverageFile =>
    true
  | _ => false

/-- What an operation may ask of the server. -/
inductive Asks (p : Fixture.Plan) : Operation Session → Event Session → Prop
  | lookUp {op answer} : op.setsUp = true → Asks p op (.lookedUp p.config.templateDatabase answer)
  | renew {op answer} : op.setsUp = true → Asks p op (.dropped p.config.templateDatabase answer)
  | empty {op answer} : op.setsUp = true →
      Asks p op (.truncated p.config.templateDatabase Fixture.externalTables answer)
  | replace {answer} : Asks p setupDatabase (.dropped p.config.testDatabase answer)
  | copy {answer} :
      Asks p setupDatabase (.created p.config.testDatabase p.config.templateDatabase answer)
  | connect {answer} : Asks p setupDatabase (.opened p.config.testDatabase answer)
  | disconnect {s} : Asks p (teardown (some s)) (.closed s)
  | clear {session answer} : p.config.keepTestDatabase = false →
      Asks p (teardown session) (.dropped p.config.testDatabase answer)
  | drop {name answer} : Asks p (dropDatabase name) (.dropped name answer)

variable {p : Fixture.Plan} {op : Operation Session} {e : Event Session}

open Fixture

theorem asks_of_preparing (h : Preparing p e) (server : e.isDatabase = true)
    (setsUp : op.setsUp = true) : op.Asks p e := by
  obtain (settling | filling) | template := h
  · cases (settling_isDatabase settling).symm.trans server
  · cases e with
    | truncated name candidates answer =>
      obtain ⟨rfl, rfl⟩ := filling
      exact .empty setsUp
    | ranScript | madeFile | wrote | removedFile => cases server
    | _ => cases filling
  · cases e with
    | lookedUp name answer =>
      obtain rfl := template
      exact .lookUp setsUp
    | dropped name answer =>
      obtain rfl := template
      exact .renew setsUp
    | _ => cases template

/-- An operation asks nothing else of the server. -/
theorem asks_of_allows (h : op.Allows p e) (server : e.isDatabase = true) : op.Asks p e := by
  cases op with
  | writeConfig | setupApiDatabase | setupUnknownDatabase =>
    cases (settling_isDatabase h).symm.trans server
  | runScript => cases e <;> first | cases h | cases server
  | nextCoverageFile => cases h
  | dropDatabase name =>
    cases e with
    | dropped other answer =>
      obtain rfl : other = name := h
      exact .drop
    | _ => cases h
  | setupTemplate => exact asks_of_preparing h server rfl
  | setupDatabase =>
    obtain preparing | copying := h
    · exact asks_of_preparing preparing server rfl
    · cases e with
      | dropped name answer =>
        obtain rfl := copying
        exact .replace
      | created name template answer =>
        obtain ⟨rfl, rfl⟩ := copying
        exact .copy
      | opened name answer =>
        obtain rfl := copying
        exact .connect
      | _ => cases copying
  | teardown session =>
    cases e with
    | closed s =>
      obtain rfl : session = some s := h
      exact .disconnect
    | dropped name answer =>
      obtain ⟨rfl, keep⟩ := h
      exact .clear keep
    | _ => cases h

theorem Asks.not_isLocal (h : op.Asks p e) : op.isLocal = false := by
  cases h with
  | lookUp setsUp | renew setsUp | empty setsUp => cases op <;> first | rfl | cases setsUp
  | _ => rfl

/-- Only a drop by name brings in a name of its own. -/
theorem Asks.databases (h : op.Asks p e) : ∀ name ∈ e.databases,
    name = p.config.testDatabase ∨ name = p.config.templateDatabase ∨ op = .dropDatabase name := by
  cases h <;> simp [Event.databases]

/-- A run names no databases but the template, the scenario database, and those that it is asked to
drop. -/
theorem databases_of_parts {ops : List (Operation Session)} {parts : List (List (Event Session))}
    (each : List.Forall₂ (fun op es => ∀ e ∈ es, op.Allows p e) ops parts)
    (mem : e ∈ parts.flatten) {name : String} (named : name ∈ e.databases) :
    name = p.config.testDatabase ∨ name = p.config.templateDatabase ∨
      .dropDatabase name ∈ ops := by
  obtain ⟨op, given, allowed⟩ := exists_of_mem_flatten each e mem
  have asks : op.Asks p e := asks_of_allows allowed (Event.isDatabase_of_mem named)
  obtain test | template | rfl := asks.databases name named
  · exact .inl test
  · exact .inr (.inl template)
  · exact .inr (.inr given)

end Operation

namespace Fixture

open Operation Work

variable {σ Session : Type} {p : Plan} {B : Backend σ Session} {listed : σ → String → Prop}

/-- What is known of the list of databases: a request leaves those on it, and off it, that it does
not name, and a script takes none away. -/
structure ListView (B : Backend σ Session) (listed : σ → String → Prop) : Prop where
  kept : ∀ {name e w w'}, B.Happens w e w' → e.script? = none → name ∉ e.databases →
    (listed w' name ↔ listed w name)
  scripts : ∀ {name i answer w w'}, B.Happens w (.ranScript i answer) w' → listed w name →
    listed w' name

def MadeByScript (B : Backend σ Session) (listed : σ → String → Prop) (name : String) (w : σ)
    (es : List (Event Session)) (w' : σ) : Prop :=
  ∃ before i answer after m m', es = before ++ .ranScript i answer :: after ∧
    B.Chain w before m ∧ B.Happens m (.ranScript i answer) m' ∧ B.Chain m' after w' ∧
    ¬ listed m name ∧ listed m' name

section Lists

variable (view : ListView B listed) {name : String} {w w' : σ} {es : List (Event Session)}

include view

theorem ListView.stays (chain : B.Chain w es w') (other : ∀ e ∈ es, name ∉ e.databases)
    (there : listed w name) : listed w' name := by
  refine chain.keeps (I := fun v => listed v name) (fun {v e v'} happens unnamed there => ?_) other
    there
  cases e with
  | ranScript => exact view.scripts happens there
  | _ => exact (view.kept happens rfl unnamed).mpr there

theorem ListView.origin (chain : B.Chain w es w') (other : ∀ e ∈ es, name ∉ e.databases)
    (there : listed w' name) : listed w name ∨ MadeByScript B listed name w es w' := by
  induction chain with
  | nil => exact .inl there
  | @cons w e m es w' happens rest ih =>
    obtain ⟨unnamed, others⟩ := List.forall_mem_cons.mp other
    obtain before | made := ih others there
    · by_cases old : listed w name
      · exact .inl old
      · cases e with
        | ranScript i answer =>
          exact .inr ⟨[], i, answer, es, w, m, rfl, .nil, happens, rest, old, before⟩
        | _ => exact absurd ((view.kept happens rfl unnamed).mp before) old
    · obtain ⟨pre, i, answer, post, n, n', rfl, chain, ran, tail, absent, present⟩ := made
      exact .inr ⟨e :: pre, i, answer, post, n, n', rfl, .cons happens chain, ran, tail, absent,
        present⟩

/-- A database that no request names is there if it was there, or if a script made it. -/
theorem ListView.listed_iff (chain : B.Chain w es w') (other : ∀ e ∈ es, name ∉ e.databases) :
    listed w' name ↔ listed w name ∨ MadeByScript B listed name w es w' := by
  refine ⟨view.origin chain other, ?_⟩
  rintro (there | ⟨pre, i, answer, post, n, n', rfl, -, -, tail, -, there⟩)
  · exact view.stays chain other there
  · refine view.stays tail (fun e mem => other e ?_) there
    exact List.mem_append_right pre (.tail _ mem)

end Lists

/-- How the requests of an operation are confined to its own databases. -/
structure Confined (p : Plan) (op : Operation Session) (es : List (Event Session)) : Prop where
  dropped : ∀ name answer, .dropped name answer ∈ es → name = p.config.testDatabase ∨
    name = p.config.templateDatabase ∨ op = .dropDatabase name
  created : ∀ name template answer, .created name template answer ∈ es →
    name = p.config.testDatabase ∧ template = p.config.templateDatabase
  truncated : ∀ name candidates answer, .truncated name candidates answer ∈ es →
    name = p.config.templateDatabase
  opened : ∀ name answer, .opened name answer ∈ es → name = p.config.testDatabase
  /-- The scenario database only goes with a scenario, unless it is dropped by name. -/
  cleared : ∀ answer, .dropped p.config.testDatabase answer ∈ es →
    op = .dropDatabase p.config.testDatabase ∨ op = .setupDatabase ∨
      p.config.keepTestDatabase = false ∧ ∃ session, op = .teardown session
  quiet : op.isLocal = true → ∀ e ∈ es, e.isDatabase = false

theorem confined_of_asks {op : Operation Session} {es : List (Event Session)}
    (differ : p.config.testDatabase ≠ p.config.templateDatabase)
    (asks : ∀ e ∈ es, e.isDatabase = true → op.Asks p e) : Confined p op es where
  dropped name answer mem := (asks _ mem rfl).databases name (.head _)
  created name template answer mem := by
    cases asks _ mem rfl
    exact ⟨rfl, rfl⟩
  truncated name candidates answer mem := by
    cases asks _ mem rfl
    rfl
  opened name answer mem := by
    cases asks _ mem rfl
    rfl
  cleared answer mem := by
    generalize same : p.config.testDatabase = name at mem
    cases asks _ mem rfl with
    | renew => exact absurd same differ
    | replace => exact .inr (.inl rfl)
    | clear keep => exact .inr (.inr ⟨keep, _, rfl⟩)
    | drop => exact .inl rfl
  quiet idle e mem := by
    cases server : e.isDatabase with
    | false => rfl
    | true => cases (asks e mem server).not_isLocal.symm.trans idle

/-- Whatever operations a run consists of and whatever fails in it, it keeps to its own databases.
Any other one is on the server afterwards if and only if it was before or a script made it. -/
theorem database_frame (valid : p.config.fault? = none) (view : ListView B listed)
    (ops : List (Operation Session)) (w : σ) :
    let b := (Operation.run p B.watched ops { world := { world := w } }).2
    ∃ parts, List.Forall₂ (Confined p) ops parts ∧ b.world.events = parts.flatten ∧
      ∀ name, name ≠ p.config.testDatabase → name ≠ p.config.templateDatabase →
        .dropDatabase name ∉ ops →
        (listed b.world.world name ↔
          listed w name ∨ MadeByScript B listed name w parts.flatten b.world.world) := by
  intro b
  obtain ⟨parts, each, course⟩ := Operation.run_allows p B.watched ops
    ({ world := { world := w } } : Bench (Chronicle σ Session))
  obtain ⟨chain, noted⟩ := chain_watched course.chain
  have confined : List.Forall₂ (Confined p) ops parts := each.imp fun _ _ allowed =>
    confined_of_asks (config_differ valid) fun e mem => asks_of_allows (allowed e mem)
  refine ⟨parts, confined, by simpa using noted,
    fun name notTest notTemplate spared => view.listed_iff chain fun e mem named => ?_⟩
  obtain test | template | dropped := databases_of_parts each mem named
  · exact notTest test
  · exact notTemplate template
  · exact spared dropped

end Fixture

namespace PlainWorld

open Fixture

theorem listView : ListView backend fun w name => name ∈ w.databases where
  kept {name e w w'} happens quiet other := by
    let Same (w' : PlainWorld) := name ∈ w'.databases ↔ name ∈ w.databases
    cases e <;> simp only [Backend.Happens, backend, stage] at happens
    case ranScript => cases quiet
    case closed | removedDirectory | removedFile => subst happens; exact Iff.rfl
    case dropped gone answer =>
      refine request_keeps (P := Same) happens (fun _ => Iff.rfl) fun _ => ?_
      have different : name ≠ gone := fun same => other (same ▸ .head _)
      simp [Same, different]
    case created new template answer =>
      refine request_keeps (P := Same) happens (fun _ => Iff.rfl) fun _ => ?_
      have different : name ≠ new := fun same => other (same ▸ .head _)
      split <;> simp [Same, different]
    all_goals exact request_keeps (P := Same) happens (fun _ => Iff.rfl) fun _ => Iff.rfl
  scripts happens there := mem_of_happens happens nofun there

end PlainWorld

namespace Fixture

/-- The first build fails, and so does its clean-up. An older database stays, and one that a script
made for somebody else is there as well. -/
theorem database_frame_bystander :
    let ops : List (Operation String) :=
      [.setupTemplate, .setupDatabase, .teardown (some "scen"), .writeConfig "more",
        .runScript .setup creationArguments, .dropDatabase "old"]
    let start : PlainWorld :=
      { databases := ["api", "old"], troubles := List.replicate 8 false ++ [true, true] }
    let b := (Operation.run PlainWorld.plan PlainWorld.backend.watched ops
      { world := { world := start } }).2
    let listed : PlainWorld → String → Prop := fun w name => name ∈ w.databases
    PlainWorld.plan.config.fault? = none ∧ "api" ∈ b.world.world.databases ∧
      ∃ parts, List.Forall₂ (Confined PlainWorld.plan) ops parts ∧
        b.world.events = parts.flatten ∧
        MadeByScript PlainWorld.backend listed "more" start parts.flatten b.world.world := by
  intro ops start
  obtain ⟨parts, confined, events, others⟩ := database_frame (p := PlainWorld.plan)
    (by decide +kernel) PlainWorld.listView ops start
  have older : "api" ∈ start.databases := by decide
  have newer : "more" ∉ start.databases := by decide
  have kept := (others "api" (by decide) (by decide) (by simp [ops])).mpr (.inl older)
  have made := (others "more" (by decide) (by decide) (by simp [ops])).mp (by decide +kernel)
  exact ⟨by decide +kernel, kept, parts, confined, events, made.resolve_left newer⟩

end Fixture

end Testbed
