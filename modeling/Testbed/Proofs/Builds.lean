import Testbed.Proofs.Bystanders

/-!
# How many builds a run starts

A build of the template is announced to the log, and its database is made by a run of the setup
script. Either can be counted: nothing else adds to the count, and one build adds at most one. A
set-up starts one build at most, and none when the template is ready. So every build of a run but
one is the fault of a set-up that failed.
-/

namespace Testbed.Fixture

open Work

variable {σ Session α β : Type}

/-! ## Counting at a bench -/

/-- From every bench, the work adds at most `n` to the count. -/
def Adds (count : Bench σ → Nat) (n : Nat) (w : Work σ α) : Prop :=
  ∀ b, count (w b).2 ≤ count b + n

namespace Adds

variable {count : Bench σ → Nat} {m n : Nat} {w : Work σ α} {f : α → Work σ β}

theorem mono (h : Adds count m w) (le : m ≤ n) : Adds count n w :=
  fun b => Nat.le_trans (h b) (Nat.add_le_add_left le _)

theorem bind (hw : Adds count m w) (hf : ∀ a, Adds count n (f a)) :
    Adds count (m + n) (w >>= f) := by
  intro b
  have first := hw b
  rw [bind_apply]
  rcases out : w b with ⟨e | a, b'⟩ <;> rw [out] at first
  · exact Nat.le_trans first (Nat.add_le_add_left (Nat.le_add_right m n) _)
  · exact Nat.le_trans (hf a b') (Nat.add_assoc .. ▸ Nat.add_le_add_right first n)

theorem free_bind (hw : Adds count 0 w) (hf : ∀ a, Adds count n (f a)) :
    Adds count n (w >>= f) :=
  (hw.bind hf).mono (Nat.le_of_eq (Nat.zero_add n))

theorem bind_free (hw : Adds count n w) (hf : ∀ a, Adds count 0 (f a)) :
    Adds count n (w >>= f) :=
  hw.bind hf

end Adds

theorem closed_adds {count : Bench σ → Nat}
    (told : ∀ r, r.message ≠ announcement → Adds count 0 (tell r)) : Closed (Adds count 0) where
  pure _ _ := Nat.le_refl _
  throw _ _ := Nat.le_refl _
  fixture _ := Nat.le_refl _
  look _ _ := Nat.le_refl _
  tell other := told _ other
  bind := Adds.free_bind
  attempt hw := hw
  finally_ hw hl b := Nat.le_trans (hl _) (hw b)

/-- A count to which a build adds `announced` when it is announced, and 1 when its database is made
if `counts` says so. Other runs of a script add 1 at most, too, if they are counted. -/
structure BuildCount (p : Plan) (B : Backend σ Session) (count : Bench σ → Nat) (announced : Nat)
    (counts : Script.Name → Script.Arguments → Bool) : Prop where
  announces : ∀ r, Adds count announced (tell r)
  told : ∀ r, r.message ≠ announcement → Adds count 0 (tell r)
  state : ∀ f, Adds count 0 (setFixture f : Work σ Unit)
  server : ∀ {α : Type} {a : Action σ α} (event : Except Failure α → Event Session),
    (∀ w, B.Happens w (event (a w).1) (a w).2) → (∀ x, (event x).isDatabase = true) →
      Adds count 0 (act a)
  close : ∀ session, Adds count 0 (change (B.closeSession session))
  writeConfig : ∀ database, Adds count 0 (writeConfig p B database)
  importNothing : Adds count 0 (importNothing p B)
  runScript : ∀ script args, Adds count (counts script args).toNat (runScript p B script args)

namespace BuildCount

variable {p : Plan} {B : Backend σ Session} {count : Bench σ → Nat} {announced : Nat}
  {counts : Script.Name → Script.Arguments → Bool} (h : BuildCount p B count announced counts)

include h

theorem dropDatabase (name : String) : Adds count 0 (dropDatabase B name) :=
  closed_dropDatabase (closed_adds h.told) (h.server (.dropped name) (fun _ => rfl) fun _ => rfl)

theorem buildTemplate : Adds count (counts .setup creationArguments).toNat
    (buildTemplate p B p.config.templateDatabase) := by
  have closed := closed_adds h.told
  refine (h.writeConfig _).free_bind fun _ => (h.runScript .setup creationArguments).bind_free
    fun _ => closed.bind ?_ fun tables => closed.bind ?_ fun _ => h.importNothing
  · exact h.server (.truncated p.config.templateDatabase externalTables) (fun _ => rfl) fun _ => rfl
  · exact closed_forIn_tell closed (by simp [Log.info, announcement]) tables

theorem rebuildTemplate : Adds count (announced + (counts .setup creationArguments).toNat)
    (rebuildTemplate p B p.config.templateDatabase) := by
  have closed := closed_adds h.told
  have drop : Adds count 0 (act (B.dropDatabase p.config.templateDatabase)) :=
    h.server (.dropped p.config.templateDatabase) (fun _ => rfl) fun _ => rfl
  have build : Adds count (counts .setup creationArguments).toNat
      (attempt (Fixture.buildTemplate p B p.config.templateDatabase)) := h.buildTemplate
  refine (h.announces _).bind fun _ => build.bind_free fun
    | .ok () => closed.bind (h.state _) fun _ => closed.tell (by decide)
    | .error e => closed.bind (closed.tell (by decide)) fun _ =>
      closed.bind (closed.attempt drop) fun
      | .ok () => closed.throw e
      | .error _ => closed.bind (closed.tell (by decide)) fun _ => closed.throw e

theorem setupTemplate : Adds count (announced + (counts .setup creationArguments).toNat)
    (setupTemplate p B) := by
  have closed := closed_adds h.told
  have found : Adds count 0 (setFixture fun s => { s with templateReady := true }) := h.state _
  refine closed.fixture.free_bind fun s => ?_
  split
  · exact (closed.pure ()).mono (Nat.zero_le _)
  split
  · refine (h.server (.lookedUp p.config.templateDatabase) (fun _ => rfl)
      fun _ => rfl).free_bind fun there => ?_
    split
    · exact (closed.bind (closed.tell (by decide)) fun _ => found).mono (Nat.zero_le _)
    · exact h.rebuildTemplate
  · exact (h.dropDatabase _).free_bind fun _ => h.rebuildTemplate

theorem copyTemplate : Adds count 0 (copyTemplate p B) :=
  closed_copyTemplate_server (closed_adds h.told) h.server

theorem teardown (session : Option Session) : Adds count 0 (teardown p B session) :=
  closed_teardown (closed_adds h.told) (fun s _ => h.close s) fun _ =>
    h.server (.dropped p.config.testDatabase) (fun _ => rfl) fun _ => rfl

theorem nextCoverageFile : Adds count 0 (nextCoverageFile p B) := by
  intro b
  obtain ⟨n, numbered⟩ := nextCoverageFile_numbered p B b
  rw [numbered]
  exact h.state (fun s => { s with coverageNumber := n }) b

end BuildCount

/-! ## Set-ups -/

variable {p : Plan} {B : Backend σ Session} {b : Bench σ}

theorem rebuildTemplate_ready (template : String) (b : Bench σ) :
    (rebuildTemplate p B template).Gives b fun r m =>
      r = .ok () → m.fixture.templateReady = true := by
  unfold rebuildTemplate
  rw [gives_tell_bind, gives_attempt_bind]
  refine Gives.mono (P := fun _ _ => True) trivial ?_
  rintro (e | ⟨⟩) m -
  · rw [gives_tell_bind, gives_attempt_bind]
    refine Gives.mono (P := fun _ _ => True) trivial ?_
    rintro (_ | _) n - <;> exact nofun
  · exact fun _ => rfl

/-- After a set-up that succeeds the template is ready. -/
theorem ready_of_setupTemplate {m : Bench σ} (setUp : setupTemplate p B b = (.ok (), m)) :
    m.fixture.templateReady = true := by
  have gives : (setupTemplate p B).Gives b fun r m =>
      r = .ok () → m.fixture.templateReady = true := by
    unfold setupTemplate
    rw [gives_fixture_bind]
    split
    case isTrue ready => exact fun _ => ready
    split
    · refine Gives.bind (P := fun _ _ => True) trivial ?_ fun _ _ _ => nofun
      rintro found n -
      split
      · exact fun _ => rfl
      · exact rebuildTemplate_ready _ n
    · exact Gives.bind (P := fun _ _ => True) trivial (fun _ n _ => rebuildTemplate_ready _ n)
        fun _ _ _ => nofun
  rw [Gives, setUp] at gives
  exact gives rfl

/-- How many builds are due: one, until the template is ready. -/
def State.due (s : State) : Nat :=
  (!s.templateReady).toNat

theorem State.due_le (s : State) : s.due ≤ 1 :=
  Bool.toNat_le _

theorem Follows.due {Φ : Event Session → Prop} {w : Work σ α} (h : Follows p B Φ w) (b : Bench σ) :
    (w b).2.fixture.due ≤ b.fixture.due := by
  obtain ⟨es, course, -⟩ := h b
  cases ready : b.fixture.templateReady with
  | true => simp [State.due, course.ready ready]
  | false =>
    rw [State.due, State.due, ready]
    exact Bool.toNat_le _

/-! ## Two counts -/

def buildStarted (p : Plan) : Log.Record :=
  Log.info announcement [("database", p.config.templateDatabase)]

/-- Whether a run of a script is one that makes the database of the template. -/
def Plan.creates (p : Plan) (script : Script.Name) (args : Script.Arguments) : Bool :=
  p.command script args = p.command .setup creationArguments

theorem settling_isCreation {e : Event Session} (h : Settling p e) : isCreation p e = false := by
  cases e with
  | ranScript i answer =>
    refine decide_eq_false fun creation => ?_
    have words := Plan.toWords_eq (h.symm.trans creation)
    revert words
    decide
  | _ => rfl

/-- The runs of the script that make the database of the template. -/
theorem creationCount (p : Plan) (B : Backend σ Session) :
    BuildCount p B.watched (fun b => b.world.events.countP (isCreation p)) 0 p.creates := by
  have free {α : Type} {w : Work (Chronicle σ Session) α} {Φ : Event Session → Prop}
      (follows : Follows p B.watched Φ w) (none : ∀ e, Φ e → isCreation p e = false) :
      Adds (fun b => b.world.events.countP (isCreation p)) 0 w := by
    intro b
    obtain ⟨es, -, -, noted, all⟩ := follows.watched b
    have quiet : es.countP (isCreation p) = 0 :=
      List.countP_eq_zero.mpr fun e mem => Bool.eq_false_iff.mp (none e (all e mem))
    simp only [noted, List.countP_append, quiet, Nat.le_refl]
  have database {e : Event Session} (h : e.isDatabase = true) : isCreation p e = false := by
    cases e <;> first | rfl | cases h
  refine
    { announces := fun _ _ => Nat.le_refl _
      told := fun _ _ _ => Nat.le_refl _
      state := fun _ _ => Nat.le_refl _
      server := fun event happens server =>
        free (follows_act event happens fun x =>
          ⟨Event.isPlain_of_isDatabase (server x), server x⟩) fun _ => database
      close := fun s => free (follows_change (.closed s) (fun _ => rfl) rfl rfl) fun _ closed =>
        closed ▸ rfl
      writeConfig := fun name => free (follows_writeConfig name) fun _ => settling_isCreation
      importNothing := ?_
      runScript := ?_ }
  · intro b
    refine (importNothing_imported b).mono (Q := fun _ m => m.world.events.countP (isCreation p) ≤
      b.world.events.countP (isCreation p)) ?_
    rintro r m imported
    cases imported with
    | noFile _ events | notWritten _ events => simp [events, isCreation]
    | @ran osm _ _ _ _ _ events _ ran =>
      have other : p.command .setup creationArguments ≠ p.command .setup (importArguments osm) :=
        Plan.import_ne (by decide) osm
      obtain rfl | ⟨answer, rfl⟩ := ran.events
      · simp [events, isCreation]
      · simp [events, isCreation, Plan.invocation, other.symm]
  · intro script args b
    obtain ⟨-, run, ran, events, -⟩ := runScript_watched (p := p) (B := B) script args b
    simp only [events, List.countP_append]
    obtain rfl | ⟨answer, rfl⟩ := ran.events
    · simp
    · have same : isCreation p (.ranScript (p.invocation b.fixture script args) answer :
          Event Session) = p.creates script args := rfl
      rw [List.countP_singleton, same]
      cases p.creates script args <;> simp

/-- What the log is told, as long as no script says the same. -/
theorem announcementCount (p : Plan) (B : Backend σ Session)
    (silent : ∀ i w, buildStarted p ∉ (B.runScript i w).1.1) :
    BuildCount p B (fun b => b.log.count (buildStarted p)) 1 fun _ _ => false := by
  let count (b : Bench σ) := b.log.count (buildStarted p)
  have told (r : Log.Record) (other : r.message ≠ announcement) : Adds count 0 (tell r) := by
    intro b
    have differs : r ≠ buildStarted p := fun same => other (same ▸ rfl)
    simp [count, List.count_append, differs]
  have closed := closed_adds told
  have script (script : Script.Name) (args : Script.Arguments) :
      Adds count 0 (runScript p B script args) := by
    refine closed_runScript closed fun i b => ?_
    have none : (B.runScript i b.world).1.1.count (buildStarted p) = 0 :=
      List.count_eq_zero.mpr (silent i b.world)
    simp [count, List.count_append, none]
  have leave : Adds count 0 (leaveWebsite B) :=
    closed_leaveWebsite closed (fun _ _ => Nat.le_refl _) fun _ => Nat.le_refl _
  have make (environment : Dictionary) : Adds count 0 (makeWebsite B environment) :=
    closed_makeWebsite closed (fun _ => Nat.le_refl _) (fun _ _ _ => Nat.le_refl _)
      fun _ _ => Nat.le_refl _
  exact
    { announces := fun r b => by
        simp only [tell_apply, List.count_append]
        exact Nat.add_le_add_left List.count_le_length _
      told := told
      state := fun _ _ => Nat.le_refl _
      server := fun _ _ _ _ => Nat.le_refl _
      close := fun _ _ => Nat.le_refl _
      writeConfig := fun _ => closed_writeConfig closed leave make
        (fun _ _ _ => Nat.le_refl _) (script _ _)
      importNothing := closed_importNothing closed (fun _ => Nat.le_refl _)
        (fun _ _ _ => Nat.le_refl _) (script _) fun _ _ => Nat.le_refl _
      runScript := script }

section Runs

variable {count : Bench σ → Nat} {announced : Nat}
  {counts : Script.Name → Script.Arguments → Bool}

/-- A set-up starts the build that is due, and only if it fails a build is due again. -/
theorem setupTemplate_due (h : BuildCount p B count announced counts)
    (once : announced + (counts .setup creationArguments).toNat ≤ 1) (b : Bench σ) :
    (setupTemplate p B).Gives b fun r m => count m + m.fixture.due ≤
      count b + b.fixture.due + if r.isOk then 0 else b.fixture.due := by
  unfold Gives
  cases ready : b.fixture.templateReady with
  | true => simp [setupTemplate_ready ready, Except.isOk, Except.toBool]
  | false =>
    have due : b.fixture.due = 1 := by simp [State.due, ready]
    have added : count (setupTemplate p B b).2 ≤ count b + 1 := (h.setupTemplate.mono once) b
    rcases stage : setupTemplate p B b with ⟨e | ⟨⟩, m⟩ <;> rw [stage] at added <;>
      dsimp only at added
    · have later := m.fixture.due_le
      change count m + m.fixture.due ≤ count b + b.fixture.due + b.fixture.due
      omega
    · have done : m.fixture.due = 0 := by simp [State.due, ready_of_setupTemplate stage]
      change count m + m.fixture.due ≤ count b + b.fixture.due
      omega

end Runs

end Testbed.Fixture

namespace Testbed.Operation

open Fixture Work

variable {σ Session : Type} {p : Plan} {B : Backend σ Session} {count : Bench σ → Nat}
  {announced : Nat} {counts : Script.Name → Script.Arguments → Bool}

/-- Whether the operation is the run of a script that counts. -/
def asks (counts : Script.Name → Script.Arguments → Bool) : Operation Session → Bool
  | runScript script args => counts script args
  | _ => false

def failedSetUps (ops : List (Operation Session))
    (results : List (Except Failure (Reply Session))) : Nat :=
  (ops.zip results).countP fun call => call.1.setsUp && !call.2.isOk

theorem failedSetUps_cons (op : Operation Session) (result : Except Failure (Reply Session))
    (ops : List (Operation Session)) (results : List (Except Failure (Reply Session))) :
    failedSetUps (op :: ops) (result :: results) =
      failedSetUps ops results + if op.setsUp && !result.isOk then 1 else 0 :=
  List.countP_cons ..

/-- Apart from set-ups, an operation only adds to the count if it is a run that counts. -/
theorem adds_perform (h : BuildCount p B count announced counts) {op : Operation Session}
    (other : op.setsUp = false) : Adds count (op.asks counts).toNat (op.perform p B) := by
  have closed := closed_adds h.told
  cases op with
  | setupTemplate | setupDatabase => cases other
  | runScript script args => exact (h.runScript script args).bind_free fun _ => closed.pure _
  | writeConfig | setupApiDatabase | setupUnknownDatabase =>
    exact closed.bind (h.writeConfig _) fun _ => closed.pure _
  | dropDatabase name => exact closed.bind (h.dropDatabase name) fun _ => closed.pure _
  | teardown session => exact closed.bind (h.teardown session) fun _ => closed.pure _
  | nextCoverageFile => exact closed.bind h.nextCoverageFile fun _ => closed.pure _

/-- A build that is due is started at most once, and is only due again if the set-up fails. -/
theorem perform_due (h : BuildCount p B count announced counts)
    (once : announced + (counts .setup creationArguments).toNat ≤ 1) (op : Operation Session)
    (b : Bench σ) :
    (op.perform p B).Gives b fun r m => count m + m.fixture.due ≤
      count b + b.fixture.due + (op.asks counts).toNat +
        if op.setsUp && !r.isOk then b.fixture.due else 0 := by
  have adding {n : Nat} {α : Type} {Φ : Event Session → Prop} {w : Work σ α}
      (follows : Follows p B Φ w) (adds : Adds count n w) (b : Bench σ) :
      count (w b).2 + (w b).2.fixture.due ≤ count b + b.fixture.due + n := by
    have added := adds b
    have due := follows.due b
    omega
  have stage := setupTemplate_due h once b
  unfold Gives at stage ⊢
  cases op with
  | setupTemplate =>
    rw [perform, bind_apply]
    rcases out : Fixture.setupTemplate p B b with ⟨e | ⟨⟩, m⟩ <;> rw [out] at stage <;> exact stage
  | setupDatabase =>
    have rest (m : Bench σ) := adding
      ((closed_follows p B fun _ => True).bind ((follows_writeConfig p.config.testDatabase).mono
        fun _ _ => trivial) fun _ => follows_copyTemplate.mono fun _ _ => trivial)
      ((closed_adds h.told).bind (h.writeConfig _) fun _ => h.copyTemplate) m
    rw [perform, bind_pure_snd, Fixture.setupDatabase, bind_apply, bind_apply]
    rcases out : Fixture.setupTemplate p B b with ⟨e | ⟨⟩, m⟩ <;> rw [out] at stage
    · exact stage
    · exact Nat.le_trans (rest m) (Nat.le_trans stage (Nat.le_add_right _ _))
  | _ => exact adding (Operation.follows p B _) (adds_perform h rfl) b

/-- Over a whole run, only set-ups that fail before the template is ready add to the one build that
is due, and the scripts that a caller runs. -/
theorem run_due (h : BuildCount p B count announced counts)
    (once : announced + (counts .setup creationArguments).toNat ≤ 1)
    (ops : List (Operation Session)) (b : Bench σ) :
    count (run p B ops b).2 ≤ count b + b.fixture.due + ops.countP (asks counts) +
      failedSetUps ops (run p B ops b).1 * b.fixture.due := by
  suffices total : count (run p B ops b).2 + (run p B ops b).2.fixture.due ≤
      count b + b.fixture.due + ops.countP (asks counts) +
        failedSetUps ops (run p B ops b).1 * b.fixture.due from
    Nat.le_trans (Nat.le_add_right _ _) total
  induction ops generalizing b with
  | nil => simp [run_nil]
  | cons op ops ih =>
    have first := perform_due h once op b
    have later := ih (op.perform p B b).2
    have due : failedSetUps ops (run p B ops (op.perform p B b).2).1 *
        (op.perform p B b).2.fixture.due ≤
      failedSetUps ops (run p B ops (op.perform p B b).2).1 * b.fixture.due :=
      Nat.mul_le_mul_left _ ((op.follows p B).due b)
    rw [run_cons, failedSetUps_cons, List.countP_cons, Nat.add_mul]
    unfold Gives at first
    cases asked : op.asks counts <;> cases fails : op.setsUp && !(op.perform p B b).1.isOk <;>
      simp only [asked, fails, Bool.toNat_true, Bool.toNat_false, Bool.false_eq_true, if_true,
        if_false, Nat.one_mul, Nat.zero_mul] at first ⊢ <;> omega

end Testbed.Operation
