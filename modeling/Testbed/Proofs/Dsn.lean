import Testbed.Proofs.Course

/-!
# Connection strings tell databases apart

The connection string of a database ends in the same way for all databases, so two names never
share one, whatever characters they hold. The variables carry the connection string, and a fixture
that is at home in a website knows from them at which database it points.
-/

namespace Testbed

theorem find?_putEntry (key value name : String) (entries : List (String × String)) :
    (putEntry key value entries).find? (·.1 = name) =
      if key = name then some (key, value) else entries.find? (·.1 = name) := by
  induction entries with
  | nil => by_cases h : key = name <;> simp [putEntry, h]
  | cons head rest ih =>
    obtain ⟨k, v⟩ := head
    simp only [putEntry]
    split
    · by_cases h : key = name <;> simp [h]
    · split
      · rename_i same
        subst same
        by_cases h : key = name <;> simp [h]
      · rename_i different
        rw [List.find?_cons, List.find?_cons, ih]
        by_cases h : key = name
        · have : k ≠ name := fun hk => different (h.trans hk.symm)
          simp [h, this]
        · simp [h]

namespace Dictionary

@[simp] theorem get?_put (d : Dictionary) (key value name : String) :
    (d.put key value).get? name = if key = name then some value else d.get? name := by
  simp only [get?, put, find?_putEntry]
  by_cases h : key = name <;> simp [h]

end Dictionary

theorem AppEnv.get?_dsnName (dsn : String) (modulePath : Option String) :
    (AppEnv.environment dsn modulePath).get? AppEnv.dsnName = some dsn := by
  cases modulePath <;>
    simp [AppEnv.environment, Dictionary.ofPairs, Dictionary.putAll, AppEnv.dsnName,
      AppEnv.flatNodeName, AppEnv.importStyleName, AppEnv.tigerDataName, AppEnv.modulePathName]

theorem Connection.Params.dsn_injective (params : Connection.Params) {x y : String}
    (same : params.dsn x = params.dsn y) : x = y := by
  simpa [Connection.Params.dsn] using same

namespace Fixture

variable {p : Plan}

theorem Plan.variablesOf_injective {x y : String} (same : p.variablesOf x = p.variablesOf y) :
    x = y := by
  have h := congrArg (·.get? AppEnv.dsnName) same
  simp only [Plan.variablesOf, AppEnv.get?_dsnName, Option.some.injEq] at h
  exact p.config.connection.dsn_injective h

/-- The fixture has a website, and it was made for the given database. -/
def State.AtHome (p : Plan) (database : String) (s : State) : Prop :=
  s.website.isSome ∧ s.environment = some (p.variablesOf database)

/-- Every configuration that was ever written is one for some database. -/
def State.Configured (p : Plan) (s : State) : Prop :=
  ∀ environment, s.environment = some environment → ∃ database, environment = p.variablesOf database

theorem State.configured_of {s : State} (h : s.environment = none ∨
    ∃ database, s.environment = some (p.variablesOf database)) : s.Configured p := by
  intro environment written
  rcases h with none | ⟨database, some⟩
  · cases none.symm.trans written
  · exact ⟨database, Option.some.inj (written.symm.trans some)⟩

theorem State.pointsAt_iff {s : State} (configured : s.Configured p) (database : String) :
    s.pointsAt (p.config.connection.dsn database) = true ↔ s.AtHome p database := by
  rw [State.pointsAt, Bool.and_eq_true, decide_eq_true_eq]
  refine and_congr_right fun _ => ?_
  unfold State.childVariables
  cases h : s.environment with
  | none => simp [Dictionary.get?, Dictionary.empty]
  | some environment =>
    obtain ⟨other, rfl⟩ := configured environment h
    simp only [Option.getD_some, Option.some.injEq]
    constructor
    · intro same
      rw [Plan.variablesOf, AppEnv.get?_dsnName, Option.some.injEq] at same
      rw [p.config.connection.dsn_injective same]
    · intro same
      rw [same, Plan.variablesOf, AppEnv.get?_dsnName]

theorem Course.configured {σ Session : Type} {B : Backend σ Session} {b b' : Bench σ}
    {es : List (Event Session)} (h : Course p B b es b') (before : b.fixture.Configured p) :
    b'.fixture.Configured p := by
  induction h with
  | nil => exact before
  | cons step _ ih =>
    apply ih
    cases step with
    | settled =>
      intro environment written
      exact ⟨_, (Option.some.inj written).symm⟩
    | _ => exact before

end Fixture

end Testbed
