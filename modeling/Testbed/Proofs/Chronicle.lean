import Testbed.Command.Stage

/-!
# Chronicles of what is asked

An event is a request to the outside together with its answer. A backend can be watched, so that
its world carries a chronicle of all events so far. Watching changes no answer.

Nothing is known of the outside but what it answers, so assumptions on it are stated about events:
what holds of the world after an event, given the world before.
-/

namespace Testbed

/-- A request and its answer. -/
inductive Event (Session : Type) where
  | lookedUp (name : String) (answer : Except Failure Bool)
  | dropped (name : String) (answer : Except Failure Unit)
  | created (name template : String) (answer : Except Failure Unit)
  | truncated (database : String) (candidates : List String)
      (answer : Except Failure (List String))
  | opened (database : String) (answer : Except Failure Session)
  | closed (session : Session)
  | ranScript (invocation : Script.Invocation) (answer : Except Failure Unit)
  | madeDirectory (stem : String) (answer : Except TemporaryFault String)
  | madeFile (stem ending : String) (answer : Except TemporaryFault String)
  | wrote (path content : String) (answer : Except SystemFault Unit)
  | removedDirectory (path : String)
  | removedFile (path : String)
  | ranCommand (invocation : Script.Invocation) (answer : Except Failure Job.Status)

namespace Event

variable {Session : Type}

def script? : Event Session → Option Script.Invocation
  | ranScript invocation _ => some invocation
  | _ => none

def command? : Event Session → Option Script.Invocation
  | ranCommand invocation _ => some invocation
  | _ => none

def drop? : Event Session → Option String
  | dropped name _ => some name
  | _ => none

def failed : Event Session → Bool
  | lookedUp _ (.error _) | dropped _ (.error _) | created _ _ (.error _)
  | truncated _ _ (.error _) | opened _ (.error _) | ranScript _ (.error _)
  | madeDirectory _ (.error _) | madeFile _ _ (.error _) | wrote _ _ (.error _)
  | ranCommand _ (.error _) => true
  | _ => false

/-- Whether a directory was to be made or removed. -/
def isDirectory : Event Session → Bool
  | madeDirectory .. | removedDirectory _ => true
  | _ => false

/-- Whether the event has to do neither with a program nor with a directory. -/
def isPlain : Event Session → Bool
  | ranScript .. | ranCommand .. | madeDirectory .. | removedDirectory _ => false
  | _ => true

/-- Whether the database server was asked, or a connection to it closed. -/
def isDatabase : Event Session → Bool
  | lookedUp .. | dropped .. | created .. | truncated .. | opened .. | closed .. => true
  | _ => false

theorem isPlain_of_isDatabase {e : Event Session} (h : e.isDatabase = true) : e.isPlain = true := by
  cases e <;> first | rfl | cases h

theorem not_isDirectory_of_isDatabase {e : Event Session} (h : e.isDatabase = true) :
    e.isDirectory = false := by
  cases e <;> first | rfl | cases h

end Event

variable {σ Session : Type}

/-- In the world `w` the event happens, and the world `w'` is what comes of it. -/
def Backend.Happens (B : Backend σ Session) (w : σ) : Event Session → σ → Prop
  | .lookedUp name answer, w' => B.databaseExists name w = (answer, w')
  | .dropped name answer, w' => B.dropDatabase name w = (answer, w')
  | .created name template answer, w' => B.createDatabase name template w = (answer, w')
  | .truncated database candidates answer, w' =>
    B.truncateTables database candidates w = (answer, w')
  | .opened database answer, w' => B.openSession database w = (answer, w')
  | .closed session, w' => B.closeSession session w = w'
  | .ranScript invocation answer, w' =>
    ∃ records, B.runScript invocation w = ((records, answer), w')
  | .madeDirectory stem answer, w' => B.makeDirectory stem w = (answer, w')
  | .madeFile stem ending answer, w' => B.makeFile stem ending w = (answer, w')
  | .wrote path content answer, w' => B.writeFile path content w = (answer, w')
  | .removedDirectory path, w' => B.removeDirectory path w = w'
  | .removedFile path, w' => B.removeFile path w = w'
  | .ranCommand _ _, _ => False

/-- The events happen one after the other. -/
inductive Backend.Chain (B : Backend σ Session) : σ → List (Event Session) → σ → Prop
  | nil {w} : Chain B w [] w
  | cons {w e w' es w''} : B.Happens w e w' → Chain B w' es w'' → Chain B w (e :: es) w''

namespace Backend.Chain

variable {B : Backend σ Session} {w w' w'' : σ} {e : Event Session}
  {es fs : List (Event Session)}

theorem single (h : B.Happens w e w') : B.Chain w [e] w' :=
  .cons h .nil

theorem append (h : B.Chain w es w') (h' : B.Chain w' fs w'') : B.Chain w (es ++ fs) w'' := by
  induction h with
  | nil => exact h'
  | cons happens _ ih => exact .cons happens (ih h')

theorem of_append (h : B.Chain w (es ++ fs) w'') : ∃ w', B.Chain w es w' ∧ B.Chain w' fs w'' := by
  induction es generalizing w with
  | nil => exact ⟨w, .nil, h⟩
  | cons e es ih =>
    obtain _ | ⟨happens, rest⟩ := h
    obtain ⟨m, left, right⟩ := ih rest
    exact ⟨m, .cons happens left, right⟩

/-- What every event of a kind keeps, a chain of such events keeps. -/
theorem keeps {I : σ → Prop} {Φ : Event Session → Prop}
    (step : ∀ {w e w'}, B.Happens w e w' → Φ e → I w → I w') (h : B.Chain w es w')
    (all : ∀ e ∈ es, Φ e) (before : I w) : I w' := by
  induction h with
  | nil => exact before
  | cons happens _ ih =>
    obtain ⟨first, rest⟩ := List.forall_mem_cons.mp all
    exact ih rest (step happens first before)

/-- A backend runs no program of its own accord. -/
theorem no_command (h : B.Chain w es w') : ∀ e ∈ es, e.command? = none := by
  induction h with
  | nil => nofun
  | @cons _ e _ _ _ happens _ ih =>
    refine List.forall_mem_cons.mpr ⟨?_, ih⟩
    cases e <;> first | rfl | cases happens

end Backend.Chain

/-- A world together with what was asked in it so far. -/
structure Chronicle (σ Session : Type) where
  world : σ
  events : List (Event Session) := []

namespace Chronicle

def noting {α : Type} (event : α → Event Session) (f : σ → α × σ) (c : Chronicle σ Session) :
    α × Chronicle σ Session :=
  let (answer, world) := f c.world
  (answer, { world, events := c.events ++ [event answer] })

def marking (event : Event Session) (f : σ → σ) (c : Chronicle σ Session) :
    Chronicle σ Session :=
  { world := f c.world, events := c.events ++ [event] }

end Chronicle

open Chronicle

/-- The backend with a chronicle of all requests. -/
def Backend.watched (B : Backend σ Session) : Backend (Chronicle σ Session) Session where
  directoryFault c := B.directoryFault c.world
  databaseExists name := noting (.lookedUp name) (B.databaseExists name)
  dropDatabase name := noting (.dropped name) (B.dropDatabase name)
  createDatabase name template := noting (.created name template) (B.createDatabase name template)
  truncateTables database candidates :=
    noting (.truncated database candidates) (B.truncateTables database candidates)
  openSession database := noting (.opened database) (B.openSession database)
  closeSession session := marking (.closed session) (B.closeSession session)
  runScript invocation := noting (fun a => .ranScript invocation a.2) (B.runScript invocation)
  makeDirectory stem := noting (.madeDirectory stem) (B.makeDirectory stem)
  makeFile stem ending := noting (.madeFile stem ending) (B.makeFile stem ending)
  writeFile path content := noting (.wrote path content) (B.writeFile path content)
  removeDirectory path := marking (.removedDirectory path) (B.removeDirectory path)
  removeFile path := marking (.removedFile path) (B.removeFile path)

def Stage.watched (S : Stage σ Session) : Stage (Chronicle σ Session) Session where
  toBackend := S.toBackend.watched
  runCommand invocation := noting (fun a => .ranCommand invocation a.2) (S.runCommand invocation)

section Watching

variable {B : Backend σ Session} {c c' : Chronicle σ Session} {e : Event Session}
  {es : List (Event Session)}

/-- A watched event is an event of the world, and is written down. -/
theorem happens_watched (h : B.watched.Happens c e c') :
    B.Happens c.world e c'.world ∧ c'.events = c.events ++ [e] := by
  cases e <;>
    simp only [Backend.Happens, Backend.watched, noting, marking, Prod.mk.injEq] at h ⊢
  case ranScript =>
    obtain ⟨records, answer, rfl⟩ := h
    exact ⟨⟨records, Prod.ext answer rfl⟩, by rw [answer]⟩
  case closed | removedDirectory | removedFile => subst h; exact ⟨rfl, rfl⟩
  all_goals
    obtain ⟨answer, rfl⟩ := h
    exact ⟨Prod.ext answer rfl, by rw [answer]⟩

theorem chain_watched (h : B.watched.Chain c es c') :
    B.Chain c.world es c'.world ∧ c'.events = c.events ++ es := by
  induction h with
  | nil => exact ⟨.nil, by simp⟩
  | cons happens _ ih =>
    obtain ⟨first, noted⟩ := happens_watched happens
    exact ⟨.cons first ih.1, by rw [ih.2, noted, List.append_assoc, List.singleton_append]⟩

end Watching

end Testbed
