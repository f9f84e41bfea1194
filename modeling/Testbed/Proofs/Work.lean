import Testbed.Fixture

/-!
# What work comes to

Work is a function on benches, so its parts can be evaluated one after the other. A statement
about the end of some work follows from statements about its parts, and a property that every
part keeps is kept by the whole.
-/

namespace Testbed.Work

variable {σ α β : Type}

theorem eq_ok_of_isOk {r : Except Failure Unit} (h : r.isOk = true) : r = .ok () := by
  cases r with
  | ok => rfl
  | error => cases h

theorem bind_apply (w : Work σ α) (f : α → Work σ β) (b : Bench σ) :
    (w >>= f) b = match w b with
      | (.ok a, b) => f a b
      | (.error e, b) => (.error e, b) := by
  simp only [bind, ExceptT.bind, ExceptT.mk, StateT.bind]
  rcases w b with ⟨a | e, b⟩ <;> rfl

/-- Work that only wraps up its result ends at the same bench. -/
theorem bind_pure_snd (w : Work σ α) (f : α → β) (b : Bench σ) :
    ((do return f (← w) : Work σ β) b).2 = (w b).2 := by
  rw [bind_apply]
  rcases w b with ⟨e | a, m⟩ <;> rfl

@[simp] theorem pure_apply (a : α) (b : Bench σ) : (pure a : Work σ α) b = (.ok a, b) := rfl

@[simp] theorem throw_apply (e : Failure) (b : Bench σ) :
    (throw e : Work σ α) b = (.error e, b) := rfl

@[simp] theorem act_apply (a : Action σ α) (b : Bench σ) :
    act a b = ((a b.world).1, { b with world := (a b.world).2 }) := rfl

@[simp] theorem look_apply (f : σ → α) (b : Bench σ) : look f b = (.ok (f b.world), b) := rfl

@[simp] theorem doing_apply {ε : Type} (reason : ε → Failure) (a : σ → Except ε α × σ)
    (b : Bench σ) :
    doing reason a b = ((a b.world).1.mapError reason, { b with world := (a b.world).2 }) := rfl

theorem doing_of_ok {ε : Type} {reason : ε → Failure} {a : σ → Except ε α × σ} {b : Bench σ}
    {x : α} {w w' : σ} (h : a w = (.ok x, w')) :
    doing reason a { b with world := w } = (.ok x, { b with world := w' }) := by
  simp only [doing_apply, h]
  rfl

theorem doing_of_error {ε : Type} {reason : ε → Failure} {a : σ → Except ε α × σ} {b : Bench σ}
    {e : ε} {w w' : σ} (h : a w = (.error e, w')) :
    doing reason a { b with world := w } = (.error (reason e), { b with world := w' }) := by
  simp only [doing_apply, h]
  rfl

@[simp] theorem change_apply (f : σ → σ) (b : Bench σ) :
    change f b = (.ok (), { b with world := f b.world }) := rfl

@[simp] theorem tell_apply (r : Log.Record) (b : Bench σ) :
    tell r b = (.ok (), { b with log := b.log ++ [r] }) := rfl

@[simp] theorem fixture_apply (b : Bench σ) : fixture b = (.ok b.fixture, b) := rfl

@[simp] theorem setFixture_apply (f : Fixture.State → Fixture.State) (b : Bench σ) :
    setFixture f b = (.ok (), { b with fixture := f b.fixture }) := rfl

@[simp] theorem attempt_apply (w : Work σ α) (b : Bench σ) :
    attempt w b = (.ok (w b).1, (w b).2) := rfl

@[simp] theorem finally_apply (w : Work σ α) (last : Work σ Unit) (b : Bench σ) :
    finally_ w last b = ((w b).1, (last (w b).2).2) := rfl

@[simp] theorem running_apply (a : σ → (List Log.Record × Except Failure α) × σ) (b : Bench σ) :
    running a b =
      ((a b.world).1.2, { b with log := b.log ++ (a b.world).1.1, world := (a b.world).2 }) := rfl

/-- Started at the bench `b`, the work ends with a result and a bench of which `Q` holds. -/
def Gives (w : Work σ α) (b : Bench σ) (Q : Except Failure α → Bench σ → Prop) : Prop :=
  Q (w b).1 (w b).2

variable {w : Work σ α} {f : α → Work σ β} {b : Bench σ}
  {P Q : Except Failure α → Bench σ → Prop} {R : Except Failure β → Bench σ → Prop}

theorem Gives.mono (h : w.Gives b P) (imp : ∀ r b, P r b → Q r b) : w.Gives b Q :=
  imp _ _ h

theorem Gives.and (hp : w.Gives b P) (hq : w.Gives b Q) : w.Gives b fun r b => P r b ∧ Q r b :=
  ⟨hp, hq⟩

theorem Gives.bind (h : w.Gives b P) (ok : ∀ a b, P (.ok a) b → (f a).Gives b R)
    (error : ∀ e b, P (.error e) b → R (.error e) b) : (w >>= f).Gives b R := by
  unfold Gives at *
  rw [bind_apply]
  rcases hw : w b with ⟨e | a, b'⟩ <;> rw [hw] at h
  · exact error e b' h
  · exact ok a b' h

section Prefixes

variable {g : Fixture.State → Work σ β} {k : Except Failure α → Work σ β} {rest : Unit → Work σ β}

theorem gives_fixture_bind : (fixture >>= g).Gives b R ↔ (g b.fixture).Gives b R := Iff.rfl

theorem gives_tell_bind {r : Log.Record} :
    (tell r >>= rest).Gives b R ↔ (rest ()).Gives { b with log := b.log ++ [r] } R := Iff.rfl

theorem gives_setFixture_bind {f : Fixture.State → Fixture.State} :
    (setFixture f >>= rest).Gives b R ↔
      (rest ()).Gives { b with fixture := f b.fixture } R := Iff.rfl

theorem gives_attempt_bind :
    (attempt w >>= k).Gives b R ↔ w.Gives b fun r b' => (k r).Gives b' R := Iff.rfl

end Prefixes

/-- Telling the log about every member of a list adds all the records, and nothing else. -/
theorem forIn_tell (record : α → Log.Record) (list : List α) (b : Bench σ) :
    (forIn list PUnit.unit fun a _ => do
        tell (record a)
        pure (ForInStep.yield PUnit.unit) : Work σ PUnit) b =
      (.ok PUnit.unit, { b with log := b.log ++ list.map record }) := by
  induction list generalizing b with
  | nil => simp [pure_apply]
  | cons a list ih =>
    rw [List.forIn_cons]
    simp only [bind_apply, tell_apply, pure_apply, ih, List.map_cons, List.append_assoc,
      List.singleton_append]

theorem gives_forIn_tell_bind {record : α → Log.Record} {list : List α}
    {rest : PUnit → Work σ β} {b : Bench σ} {R : Except Failure β → Bench σ → Prop} :
    ((forIn list PUnit.unit fun a _ => do
        tell (record a)
        pure (ForInStep.yield PUnit.unit) : Work σ PUnit) >>= rest).Gives b R ↔
      (rest PUnit.unit).Gives { b with log := b.log ++ list.map record } R := by
  unfold Gives
  rw [bind_apply, forIn_tell]

def announcement : String := "building template database"

/-- Work composed of work in the class `C` is itself in `C`. Looking at the fixture or at the world
and telling the log are no exception, but for the announcement of a build. -/
structure Closed (C : {α : Type} → Work σ α → Prop) : Prop where
  pure : ∀ {α : Type} (a : α), C (pure a : Work σ α)
  throw : ∀ {α : Type} (e : Failure), C (throw e : Work σ α)
  fixture : C fixture
  look : ∀ {α : Type} (f : σ → α), C (look f)
  tell : ∀ {level message fields}, message ≠ announcement → C (tell ⟨level, message, fields⟩)
  bind : ∀ {α β : Type} {w : Work σ α} {f : α → Work σ β}, C w → (∀ a, C (f a)) → C (w >>= f)
  attempt : ∀ {α : Type} {w : Work σ α}, C w → C (attempt w)
  finally_ : ∀ {α : Type} {w : Work σ α} {last : Work σ Unit}, C w → C last → C (finally_ w last)

theorem closed_forIn_tell {C : {α : Type} → Work σ α → Prop} (closed : Closed C)
    {record : α → Log.Record} (other : ∀ a, (record a).message ≠ announcement) (list : List α) :
    C (forIn list PUnit.unit fun a _ => do
      tell (record a)
      pure (ForInStep.yield PUnit.unit) : Work σ PUnit) := by
  induction list with
  | nil => exact closed.pure _
  | cons a list ih =>
    rw [List.forIn_cons]
    exact closed.bind (closed.bind (closed.tell (other a)) fun _ => closed.pure _) fun
      | .done _ => closed.pure _
      | .yield _ => ih

/-- Whatever comes of the work, `I` holds afterwards if it held before. -/
def Keeps (I : Bench σ → Prop) (w : Work σ α) : Prop :=
  ∀ b, I b → I (w b).2

theorem closed_keeps {I : Bench σ → Prop} (log : ∀ r, Keeps I (tell r)) : Closed (Keeps I) where
  pure _ _ h := h
  throw _ _ h := h
  fixture _ h := h
  look _ _ h := h
  tell _ := log _
  bind hw hf b hb := by
    have hmid := hw b hb
    rw [bind_apply]
    split <;> rename_i h <;> rw [h] at hmid
    · exact hf _ _ hmid
    · exact hmid
  attempt hw := hw
  finally_ hw hl b hb := hl _ (hw b hb)

end Testbed.Work
