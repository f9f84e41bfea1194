import Testbed.Command.Stage
import Testbed.Fixture
import Testbed.Rehearsal.Recorder

/-!
# A plain world

The server is a list of names, the disk a list of files, and a list of troubles says which of the
coming requests fail. All that is assumed of the outside holds of this world.
-/

namespace Testbed

structure PlainWorld where
  databases : List String := []
  files : List (String × String) := []
  /-- How many temporary names were given out. -/
  given : Nat := 0
  /-- Whether the coming requests fail. All that follow do not. -/
  troubles : List Bool := []
  lost : Option SystemFault := none

namespace PlainWorld

def request {ε α : Type} (trouble : ε) (answer : PlainWorld → Except ε α × PlainWorld)
    (w : PlainWorld) : Except ε α × PlainWorld :=
  match w.troubles with
  | true :: rest => (.error trouble, { w with troubles := rest })
  | _ => answer { w with troubles := w.troubles.tail }

def text (w : PlainWorld) (path : String) : Option String :=
  (w.files.find? (·.1 = path)).map Prod.snd

def temporary (w : PlainWorld) (stem ending : String) : String :=
  "/tmp/" ++ stem ++ toString w.given ++ ending

/-- The world after a script that did its work. -/
def served (w : PlainWorld) (i : Script.Invocation) : PlainWorld :=
  if "--create-db" ∈ i.command then
    { w with databases := w.databases ++
        ((i.environment.get? AppEnv.dsnName).map Rehearsal.Recorder.databaseOf).toList }
  else w

/-- A session is the name of its database, and every program succeeds that is started. -/
def stage : Stage PlainWorld String where
  directoryFault w := w.lost
  databaseExists name := request (.told "no server") fun w => (.ok (w.databases.contains name), w)
  dropDatabase name := request (.told "no server") fun w =>
    (.ok (), { w with databases := w.databases.filter (· ≠ name) })
  createDatabase name template := request (.told "no server") fun w =>
    if template ∈ w.databases then (.ok (), { w with databases := w.databases ++ [name] })
    else (.error (.told "no such template"), w)
  truncateTables _ _ := request (.told "no server") fun w => (.ok [], w)
  openSession database := request (.told "no server") fun w => (.ok database, w)
  closeSession _ w := w
  runScript i w :=
    let (answer, w) := request (.told "no luck") (fun w => (.ok (), w.served i)) w
    (([], answer), w)
  makeDirectory stem := request ⟨.permissionDenied, "/tmp"⟩ fun w =>
    (.ok (w.temporary stem ""), { w with given := w.given + 1 })
  makeFile stem ending := request ⟨.permissionDenied, "/tmp"⟩ fun w =>
    (.ok (w.temporary stem ending),
      { w with
        files := (w.temporary stem ending, "") :: w.files
        given := w.given + 1 })
  writeFile path content := request .permissionDenied fun w =>
    (.ok (), { w with files := (path, content) :: w.files })
  removeDirectory path w :=
    { w with files := w.files.filter fun f => !(path ++ "/").toList.isPrefixOf f.1.toList }
  removeFile path w := { w with files := w.files.filter (·.1 ≠ path) }
  runCommand _ w :=
    let (answer, w) := request (.told "no luck") (fun w => (.ok (Job.Status.exited 0), w)) w
    (([], answer), w)

abbrev backend : Backend PlainWorld String :=
  stage.toBackend

def plan : Fixture.Plan where
  config :=
    { buildDirectory := "/b"
      templateDatabase := "tmpl"
      testDatabase := "scen"
      apiDatabase := "api"
      scriptCommand := "sh"
      scriptExtension := "sh" }
  launcher := ⟨["sh"], "sh"⟩
  workingDirectory := "/"

theorem planned : Fixture.Plan.ofConfig plan.config "/" = .ok plan := by
  have launcher : plan.config.launcher? = some ⟨["sh"], "sh"⟩ := by decide +kernel
  rw [Fixture.Plan.ofConfig, launcher]
  rfl

/-- Either there is trouble, or the request is answered, and the rest of the world is the same for
both. -/
theorem request_cases {ε α : Type} {trouble : ε} {answer : PlainWorld → Except ε α × PlainWorld}
    {w w' : PlainWorld} {r : Except ε α} (h : request trouble answer w = (r, w')) :
    ∃ rest, (r = .error trouble ∧ w' = { w with troubles := rest }) ∨
      answer { w with troubles := rest } = (r, w') := by
  unfold request at h
  split at h
  · rename_i rest _
    obtain ⟨rfl, rfl⟩ := Prod.mk.inj h
    exact ⟨rest, .inl ⟨rfl, rfl⟩⟩
  · exact ⟨_, .inr h⟩

theorem request_ok {ε α : Type} {trouble : ε} {answer : PlainWorld → Except ε α × PlainWorld}
    {w w' : PlainWorld} {a : α} (h : request trouble answer w = (.ok a, w')) :
    ∃ rest, answer { w with troubles := rest } = (.ok a, w') := by
  obtain ⟨rest, ⟨no, -⟩ | answered⟩ := request_cases h
  · cases no
  · exact ⟨rest, answered⟩

theorem request_keeps {P : PlainWorld → Prop} {ε α : Type} {trouble : ε}
    {answer : PlainWorld → Except ε α × PlainWorld} {w w' : PlainWorld} {r : Except ε α}
    (h : request trouble answer w = (r, w')) (troubled : ∀ rest, P { w with troubles := rest })
    (answered : ∀ rest, P (answer { w with troubles := rest }).2) : P w' := by
  obtain ⟨rest, ⟨-, rfl⟩ | ok⟩ := request_cases h
  · exact troubled rest
  · have := answered rest
    rwa [ok] at this

theorem request_of_runScript {i : Script.Invocation} {w w' : PlainWorld}
    {records : List Log.Record} {answer : Except Failure Unit}
    (h : backend.runScript i w = ((records, answer), w')) :
    request (Failure.told "no luck") (fun w => (.ok (), w.served i)) w = (answer, w') :=
  Prod.ext (congrArg (·.1.2) h) (congrArg (·.2) h)

/-- A look-up tells the truth. -/
theorem mem_of_exists {name : String} {w w' : PlainWorld}
    (h : backend.databaseExists name w = (.ok true, w')) : name ∈ w'.databases := by
  simp only [backend, stage] at h
  obtain ⟨rest, answer⟩ := request_ok h
  obtain ⟨found, rfl⟩ := Prod.mk.inj answer
  simpa using found

/-- A drop that succeeds leaves no database of the name. -/
theorem not_mem_of_drop {name : String} {w w' : PlainWorld}
    (h : backend.dropDatabase name w = (.ok (), w')) : name ∉ w'.databases := by
  simp only [backend, stage] at h
  obtain ⟨rest, answer⟩ := request_ok h
  obtain ⟨-, rfl⟩ := Prod.mk.inj answer
  simp

@[simp] theorem served_files (w : PlainWorld) (i : Script.Invocation) :
    (w.served i).files = w.files := by
  unfold served
  split <;> rfl

end PlainWorld

end Testbed
