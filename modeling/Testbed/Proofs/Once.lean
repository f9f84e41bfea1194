import Testbed.Proofs.Builds

/-!
# A template is built at most once

Once a set-up has succeeded, a set-up does nothing at all for the rest of the run, and a scenario
database is made without a look at the template. So every build but one is the fault of a set-up
that failed.
-/

namespace Testbed

/-- Whether a template is looked for, or filled with data. -/
def Event.isForTemplate {Session : Type} : Event Session → Bool
  | lookedUp .. | truncated .. | madeFile .. => true
  | _ => false

namespace Operation

open Fixture Work

variable {σ Session : Type} {p : Plan} {B : Backend σ Session}

/-- Between two benches the operations started at most `n` builds: so many were announced, if no
script announces any, and besides the runs that are operations of their own, so many runs of the
setup script made the database of the template. -/
structure BuildsAtMost (p : Plan) (B : Backend σ Session) (n : Nat)
    (ops : List (Operation Session)) (b b' : Bench (Chronicle σ Session)) : Prop where
  announced : (∀ i w, buildStarted p ∉ (B.runScript i w).1.1) →
    b'.log.count (buildStarted p) ≤ b.log.count (buildStarted p) + n
  created : b'.world.events.countP (isCreation p) ≤
    b.world.events.countP (isCreation p) + ops.countP (asks p.creates) + n

theorem buildsAtMost_run (ops : List (Operation Session)) (b : Bench (Chronicle σ Session)) :
    BuildsAtMost p B ((failedSetUps ops (run p B.watched ops b).1 + 1) * b.fixture.due) ops b
      (run p B.watched ops b).2 where
  announced silent := by
    have none : ops.countP (asks fun _ _ => false) = 0 :=
      List.countP_eq_zero.mpr fun op _ => by cases op <;> nofun
    have counted := run_due (announcementCount p B.watched fun i c => silent i c.world)
      (Nat.le_refl 1) ops b
    rw [none] at counted
    rw [Nat.succ_mul]
    omega
  created := by
    have counted := run_due (creationCount p B) (Nat.zero_add _ ▸ Bool.toNat_le _) ops b
    rw [Nat.succ_mul]
    omega

/-! ## A run with a template -/

/-- The events that an operation allows when the template is ready. -/
def AllowsReady (p : Plan) : Operation Session → Event Session → Prop
  | setupTemplate, _ => False
  | setupDatabase, e => Settling p e ∨ Copying p e
  | op, e => op.Allows p e

theorem followsFrom_ready (op : Operation Session) :
    FollowsFrom p B (fun b => b.fixture.templateReady = true) (op.AllowsReady p)
      (op.perform p B) := by
  let Ready : Bench σ → Prop := fun b => b.fixture.templateReady = true
  -- only the template stage is different from what it is without a template
  have keeping {α : Type} {Φ : Event Session → Prop} {w : Work σ α} (follows : Follows p B Φ w) :
      FollowsFrom p B Ready Φ w := by
    intro b ready
    obtain ⟨es, course, all⟩ := follows b
    exact ⟨es, course, all, course.ready ready⟩
  have idle (Φ : Event Session → Prop) : FollowsFrom p B Ready Φ (Fixture.setupTemplate p B) := by
    intro b ready
    rw [setupTemplate_ready ready]
    exact ⟨[], .nil, nofun, ready⟩
  cases op with
  | setupTemplate =>
    exact (closed_followsFrom p B _ fun _ _ => id).bind (idle _) fun _ =>
      (closed_followsFrom p B _ fun _ _ => id).pure _
  | setupDatabase =>
    have closed := closed_followsFrom (I := Ready) p B (AllowsReady p setupDatabase) fun _ _ => id
    refine closed.bind (closed.bind (idle _) fun _ => closed.bind ?_ fun _ => ?_) fun _ =>
      closed.pure _
    · exact keeping ((follows_writeConfig _).mono fun _ => .inl)
    · exact keeping (follows_copyTemplate.mono fun _ => .inr)
  | _ => exact keeping (Operation.follows p B _)

/-- How the events of an operation leave the template alone. -/
structure LeavesTemplate (p : Plan) (op : Operation Session) (es : List (Event Session)) :
    Prop where
  quiet : ∀ e ∈ es, e.isForTemplate = false
  /-- Besides the scripts that a caller asks for, only websites are set up. -/
  ran : ∀ i answer, .ranScript i answer ∈ es →
    i.command = p.command .setup websiteArguments ∨
      ∃ script args, op = .runScript script args ∧ i.command = p.command script args
  /-- The template only goes if it is dropped by name. -/
  dropped : p.config.templateDatabase ≠ p.config.testDatabase →
    ∀ answer, .dropped p.config.templateDatabase answer ∈ es →
      op = .dropDatabase p.config.templateDatabase

theorem leavesTemplate_of_allows {op : Operation Session} {es : List (Event Session)}
    (all : ∀ e ∈ es, op.AllowsReady p e) : LeavesTemplate p op es where
  quiet e mem := by
    have allowed := all e mem
    cases e with
    | lookedUp | truncated | madeFile =>
      cases op <;> simp [AllowsReady, Allows, Settling, Copying, Clearing] at allowed
    | _ => rfl
  ran i answer mem := by
    have allowed := all _ mem
    cases op with
    | writeConfig | setupApiDatabase | setupUnknownDatabase => exact .inl allowed
    | setupDatabase => exact .inl (allowed.resolve_right id)
    | runScript script args => exact .inr ⟨script, args, rfl, allowed⟩
    | _ => cases allowed
  dropped differ answer mem := by
    have allowed := all _ mem
    cases op with
    | dropDatabase name => exact congrArg _ (Eq.symm allowed)
    | setupDatabase => exact absurd (allowed.resolve_left id) differ
    | teardown => exact absurd allowed.1 differ
    | _ => cases allowed

/-- Once a set-up has succeeded, by itself or as the first part of making a scenario database, a
set-up does nothing for the rest of the run, whatever operations follow: the template is neither
looked for nor built any more, and is only dropped by name. So a run starts at most one build more
than set-ups fail in it. -/
theorem template_once (p : Plan) (B : Backend σ Session) (ops : List (Operation Session)) (w : σ) :
    let start : Bench (Chronicle σ Session) := { world := { world := w } }
    let b := (run p B.watched ops start).2
    (∀ m, Fixture.setupTemplate p B.watched b = (.ok (), m) →
      (setupTemplate.perform p B.watched b).2 = m ∧
      Fixture.setupDatabase p B.watched b = Fixture.setupDatabase p B.watched m ∧
      ∀ later : List (Operation Session),
        let b' := (run p B.watched later m).2
        Fixture.setupTemplate p B.watched b' = (.ok (), b') ∧
        BuildsAtMost p B 0 later m b' ∧
        ∃ parts, List.Forall₂ (LeavesTemplate p) later parts ∧
          b'.world.events = m.world.events ++ parts.flatten) ∧
    BuildsAtMost p B (failedSetUps ops (run p B.watched ops start).1 + 1) ops start b := by
  intro start b
  have bound : BuildsAtMost p B ((failedSetUps ops (run p B.watched ops start).1 + 1) * 1) ops
      start b := buildsAtMost_run ops start
  rw [Nat.mul_one] at bound
  refine ⟨fun m setUp => ?_, bound⟩
  have ready := ready_of_setupTemplate setUp
  refine ⟨?_, setupDatabase_ready setUp ready, fun later => ?_⟩
  · rw [perform, bind_pure_snd, setUp]
  · obtain ⟨parts, each, course, readyLater⟩ :=
      run_parts (fun op (_ : op ∈ later) => followsFrom_ready (p := p) (B := B.watched) op) ready
    have none : m.fixture.due = 0 := by simp [State.due, ready]
    have builds := buildsAtMost_run (p := p) (B := B) later m
    rw [none, Nat.mul_zero] at builds
    exact ⟨setupTemplate_ready readyLater, builds, parts,
      each.imp fun _ _ all => leavesTemplate_of_allows all, (chain_watched course.chain).2⟩

/-- The import fails at first, and the template is built again for a scenario. Then it stays. -/
theorem template_once_retried :
    let ops : List (Operation String) := [.setupTemplate, .setupDatabase]
    let world : PlainWorld := { troubles := List.replicate 8 false ++ [true] }
    let out := run PlainWorld.plan PlainWorld.backend.watched ops { world := { world } }
    failedSetUps ops out.1 = 1 ∧
      out.2.log.count (buildStarted PlainWorld.plan) = 2 ∧
      out.2.world.events.countP (isCreation PlainWorld.plan) = 2 ∧
      ∀ later : List (Operation String),
        let b' := (run PlainWorld.plan PlainWorld.backend.watched later out.2).2
        Fixture.setupTemplate PlainWorld.plan PlainWorld.backend.watched b' = (.ok (), b') := by
  intro ops world
  obtain ⟨once, bound⟩ := template_once PlainWorld.plan PlainWorld.backend ops world
  have ready : (run PlainWorld.plan PlainWorld.backend.watched ops
      { world := { world } }).2.fixture.templateReady = true := by decide +kernel
  have failed : failedSetUps ops (run PlainWorld.plan PlainWorld.backend.watched ops
      { world := { world } }).1 = 1 := by decide +kernel
  rw [failed] at bound
  obtain ⟨-, -, later⟩ := once _ (setupTemplate_ready ready)
  refine ⟨failed, Nat.le_antisymm (bound.announced fun _ _ => List.not_mem_nil) ?_,
    Nat.le_antisymm bound.created ?_, fun ops => (later ops).1⟩
  · decide +kernel
  · decide +kernel

end Operation

end Testbed
