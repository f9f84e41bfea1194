import Testbed.Proofs.Operation

/-!
# Two runs side by side

The same operation may run at two benches, with two plans and two backends. If the parts of the
operation keep a relation between the benches and come to matching results, so does the whole.
-/

namespace Testbed.Work

variable {σ τ α α' β β' : Type}

/-- Both succeed with values that match, or both fail for the same reason. -/
inductive Matching (V : α → α' → Prop) : Except Failure α → Except Failure α' → Prop
  | ok {a a'} (same : V a a') : Matching V (.ok a) (.ok a')
  | error (e) : Matching V (.error e) (.error e)

theorem matching_eq_iff {r r' : Except Failure α} : Matching Eq r r' ↔ r = r' := by
  constructor
  · rintro (⟨rfl⟩ | _) <;> rfl
  · rintro rfl
    cases r with
    | ok a => exact .ok rfl
    | error e => exact .error e

/-- From related benches the results match and the benches are related again. -/
def Paired (R : Bench σ → Bench τ → Prop) (V : α → α' → Prop) (w : Work σ α) (w' : Work τ α') :
    Prop :=
  ∀ b b', R b b' → Matching V (w b).1 (w' b').1 ∧ R (w b).2 (w' b').2

variable {R : Bench σ → Bench τ → Prop} {V : α → α' → Prop} {V' : β → β' → Prop}
  {w : Work σ α} {w' : Work τ α'} {f : α → Work σ β} {f' : α' → Work τ β'}

theorem paired_pure {a : α} {a' : α'} (same : V a a') :
    Paired R V (pure a : Work σ α) (pure a' : Work τ α') :=
  fun _ _ h => ⟨.ok same, h⟩

theorem paired_throw (e : Failure) :
    Paired R V (throw e : Work σ α) (throw e : Work τ α') :=
  fun _ _ h => ⟨.error e, h⟩

theorem paired_bind (hw : Paired R V w w') (hf : ∀ a a', V a a' → Paired R V' (f a) (f' a')) :
    Paired R V' (w >>= f) (w' >>= f') := by
  intro b b' h
  obtain ⟨results, benches⟩ := hw b b' h
  rw [bind_apply, bind_apply]
  generalize w b = out at *
  generalize w' b' = out' at *
  obtain ⟨r, m⟩ := out
  obtain ⟨r', m'⟩ := out'
  cases results with
  | ok same => exact hf _ _ same m m' benches
  | error e => exact ⟨.error e, benches⟩

theorem paired_attempt (hw : Paired R V w w') : Paired R (Matching V) (attempt w) (attempt w') :=
  fun b b' h => ⟨.ok (hw b b' h).1, (hw b b' h).2⟩

theorem paired_finally {last : Work σ Unit} {last' : Work τ Unit} (hw : Paired R V w w')
    (hl : Paired R Eq last last') :
    Paired R V (finally_ w last) (finally_ w' last') :=
  fun b b' h => ⟨(hw b b' h).1, (hl _ _ (hw b b' h).2).2⟩

theorem paired_forIn_tell {record : α → Log.Record} {record' : α → Log.Record}
    (told : ∀ a, Paired R Eq (tell (record a)) (tell (record' a))) (list : List α) :
    Paired R Eq
      (forIn list PUnit.unit fun a _ => do
        tell (record a)
        pure (ForInStep.yield PUnit.unit) : Work σ PUnit)
      (forIn list PUnit.unit fun a _ => do
        tell (record' a)
        pure (ForInStep.yield PUnit.unit) : Work τ PUnit) := by
  induction list with
  | nil => exact paired_pure rfl
  | cons a list ih =>
    rw [List.forIn_cons, List.forIn_cons]
    refine paired_bind (V := Eq) (paired_bind (told a) fun _ _ _ => paired_pure rfl) ?_
    rintro (_ | _) _ rfl
    · exact paired_pure rfl
    · exact ih

end Testbed.Work

namespace Testbed.Operation

open Work

variable {σ τ Session : Type} {p p' : Fixture.Plan} {B : Backend σ Session} {B' : Backend τ Session}
  {R : Bench σ → Bench τ → Prop}

/-- Operations that run side by side one by one do so in a row. -/
theorem run_paired {ops : List (Operation Session)}
    (step : ∀ op ∈ ops, Paired R Eq (op.perform p B) (op.perform p' B')) {b : Bench σ}
    {b' : Bench τ} (h : R b b') :
    (run p B ops b).1 = (run p' B' ops b').1 ∧ R (run p B ops b).2 (run p' B' ops b').2 := by
  induction ops generalizing b b' with
  | nil => exact ⟨rfl, h⟩
  | cons op ops ih =>
    obtain ⟨result, benches⟩ := step op List.mem_cons_self b b' h
    obtain ⟨results, last⟩ := ih (fun o ho => step o (List.mem_cons_of_mem op ho)) benches
    exact ⟨List.cons_eq_cons.mpr ⟨matching_eq_iff.mp result, results⟩, last⟩

end Testbed.Operation
