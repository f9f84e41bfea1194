import Testbed.Live.Stage
import Testbed.Proofs.Frame

/-!
# What is done to the outside

Of all that a system is asked, a statement for the server and the start of a process are deeds. A
ledger is a world together with the deeds done in it so far. A system can be recorded, so that it
works on ledgers. What every allowed request to a system keeps is kept by every request of a fixture
that comes down to allowed deeds.
-/

namespace Testbed

/-- A statement for the server, or the start of a process. -/
inductive Deed where
  | statement (s : Sql.Statement)
  | process (i : Script.Invocation)

/-- A world together with the deeds done in it so far. -/
structure Ledger (σ : Type) where
  world : σ
  deeds : List Deed := []

namespace Ledger

variable {σ α : Type}

def doing (deed : Option Deed) (f : σ → α × σ) (l : Ledger σ) : α × Ledger σ :=
  let (answer, world) := f l.world
  (answer, { world, deeds := l.deeds ++ deed.toList })

def changing (f : σ → σ) (l : Ledger σ) : Ledger σ :=
  { l with world := f l.world }

end Ledger

namespace System

variable {σ Client : Type}

/-- One request to a system, with the deed that it is and the state in which it leaves the
system. -/
inductive Request (S : System σ Client) (w : σ) : Option Deed → σ → Prop
  | connected (target) : Request S w none (S.connect target w).2
  | executed (client s) : Request S w (some (.statement s)) (S.execute client s w).2
  | counted (client name) : Request S w none (S.countDatabases client name w).2
  | listed (client names) : Request S w none (S.tablesAmong client names w).2
  | disconnected (client) : Request S w none (S.disconnect client w)
  | started (i) : Request S w (some (.process i)) (S.start i w).2
  | madeDirectory (stem) : Request S w none (S.makeDirectory stem w).2
  | madeFile (stem ending) : Request S w none (S.makeFile stem ending w).2
  | wrote (path content) : Request S w none (S.writeFile path content w).2
  | removedDirectory (path) : Request S w none (S.removeDirectory path w)
  | removedFile (path) : Request S w none (S.removeFile path w)

open Ledger

/-- The system with a ledger of all deeds. It answers as the system does. -/
def recorded (S : System σ Client) : System (Ledger σ) Client where
  environment l := S.environment l.world
  workingDirectory l := S.workingDirectory l.world
  directoryFault l := S.directoryFault l.world
  connect target := doing none (S.connect target)
  execute client s := doing (some (.statement s)) (S.execute client s)
  countDatabases client name := doing none (S.countDatabases client name)
  tablesAmong client names := doing none (S.tablesAmong client names)
  disconnect client := changing (S.disconnect client)
  start i := doing (some (.process i)) (S.start i)
  readFile path l := S.readFile path l.world
  makeDirectory stem := doing none (S.makeDirectory stem)
  makeFile stem ending := doing none (S.makeFile stem ending)
  writeFile path content := doing none (S.writeFile path content)
  removeDirectory path := changing (S.removeDirectory path)
  removeFile path := changing (S.removeFile path)

/-- A recorded request is a request, and its deed is added to the ledger. -/
theorem Request.of_recorded {S : System σ Client} {l l' : Ledger σ} {deed : Option Deed}
    (h : S.recorded.Request l deed l') :
    S.Request l.world deed l'.world ∧ l'.deeds = l.deeds ++ deed.toList := by
  cases h with
  | disconnected | removedDirectory | removedFile =>
    exact ⟨by constructor, (List.append_nil _).symm⟩
  | _ => exact ⟨by constructor, rfl⟩

/-- What is known of the template on the server: the server lists its name once, and the template
stays there until it is dropped. Nothing is known of processes. -/
structure Holds (S : System σ Client) (name : String) (listed : σ → Prop) : Prop where
  counted : ∀ {client n w w'}, listed w → S.countDatabases client name w = (.ok n, w') → n = 1
  kept : ∀ {w deed w'}, S.Request w deed w' → (∀ i, deed ≠ some (.process i)) →
    deed ≠ some (.statement (.dropDatabase name)) → listed w → listed w'

/-- A process leaves the template on the server. -/
def Harmless (S : System σ Client) (listed : σ → Prop) (i : Script.Invocation) : Prop :=
  ∀ w, listed w → listed (S.start i w).2

end System

namespace Live

open Fixture Work

variable {σ Client : Type}

/-- A request that is no deed, or a deed that is allowed, keeps `I`. -/
def Guards (S : System σ Client) (Φ : Deed → Prop) (I : σ → Prop) : Prop :=
  ∀ {w deed w'}, S.Request w deed w' → (∀ d ∈ deed, Φ d) → I w → I w'

variable {S : System σ Client} {params : Connection.Params} {Φ : Deed → Prop} {I : σ → Prop}
  {α : Type}

section Requests

variable (guards : Guards S Φ I) {w w' : σ}

include guards

theorem Guards.quiet (h : S.Request w none w') (before : I w) : I w' :=
  guards h nofun before

theorem Guards.allowed {d : Deed} (h : S.Request w (some d) w') (allowed : Φ d) (before : I w) :
    I w' :=
  guards h (by rintro _ ⟨⟩; exact allowed) before

theorem guards_connect (database : String) (before : I w) :
    I (connect S params database w).2 := by
  unfold connect
  split
  · exact before
  · exact guards.quiet (.connected _) before

/-- Work over a connection keeps what the work keeps. -/
theorem guards_withClient {database : String} {work : Client → Action σ α}
    (kept : ∀ client w, I w → I (work client w).2) (before : I w) :
    I (withClient S params database work w).2 := by
  have connected : I (connect S params database w).2 := guards_connect guards database before
  unfold withClient
  split
  · rename_i h
    rwa [h] at connected
  · rename_i h
    rw [h] at connected
    exact guards.quiet (.disconnected _) (kept _ _ connected)

theorem guards_databaseExists (name : String) (before : I w) :
    I (databaseExists S params name w).2 :=
  guards_withClient guards (fun client _ => guards.quiet (.counted client name)) before

theorem guards_dropDatabase {name : String} (allowed : Φ (.statement (.dropDatabase name)))
    (before : I w) : I (dropDatabase S params name w).2 :=
  guards_withClient guards
    (fun client _ => guards.allowed (.executed client (.dropDatabase name)) allowed) before

theorem guards_createDatabase {name template : String}
    (allowed : Φ (.statement (.createDatabase name template))) (before : I w) :
    I (createDatabase S params name template w).2 :=
  guards_withClient guards
    (fun client _ => guards.allowed (.executed client (.createDatabase name template)) allowed)
    before

theorem guards_runCommand {i : Script.Invocation} (allowed : Φ (.process i)) (before : I w) :
    I (runCommand S i w).2 := by
  have started : I (S.start i w).2 := guards.allowed (.started i) allowed before
  unfold runCommand
  split
  · exact before
  · split <;> rename_i h <;> rwa [h] at started

end Requests

/-- The deeds by which an event comes about are allowed. No table is ever emptied. -/
def Grants (Φ : Deed → Prop) : Event Client → Prop
  | .dropped name _ => Φ (.statement (.dropDatabase name))
  | .created name template _ => Φ (.statement (.createDatabase name template))
  | .truncated .. => False
  | .ranScript i _ => Φ (.process i)
  | _ => True

theorem guards_happens (guards : Guards S Φ I) {w w' : σ} {e : Event Client}
    (happens : (stage S params).toBackend.Happens w e w') (granted : Grants Φ e) (before : I w) :
    I w' := by
  -- What is asked of the world ends in `w'`.
  have after {β : Type} {f : σ → β × σ} {answer : β} (kept : I (f w).2)
      (asked : f w = (answer, w')) : I w' := by
    rwa [asked] at kept
  cases e <;> simp only [Backend.Happens, stage] at happens
  case lookedUp name answer => exact after (guards_databaseExists guards name before) happens
  case dropped name answer => exact after (guards_dropDatabase guards granted before) happens
  case created name template answer =>
    exact after (guards_createDatabase guards granted before) happens
  case truncated => cases granted
  case opened database answer => exact after (guards_connect guards database before) happens
  case closed client => exact happens ▸ guards.quiet (.disconnected client) before
  case ranScript i answer =>
    obtain ⟨records, ran⟩ := happens
    have kept : I (runScript S i w).2 := guards_runCommand guards granted before
    exact after kept ran
  case madeDirectory stem answer => exact after (guards.quiet (.madeDirectory stem) before) happens
  case madeFile stem ending answer =>
    exact after (guards.quiet (.madeFile stem ending) before) happens
  case wrote path content answer => exact after (guards.quiet (.wrote path content) before) happens
  case removedDirectory path => exact happens ▸ guards.quiet (.removedDirectory path) before
  case removedFile path => exact happens ▸ guards.quiet (.removedFile path) before

def InWorld (I : σ → Prop) (b : Bench σ) : Prop :=
  I b.world

theorem closed_inWorld (I : σ → Prop) : Closed (Keeps (InWorld I)) :=
  closed_keeps fun _ _ h => h

/-- Work keeps what is guarded, if all that it may ask for comes down to allowed deeds. -/
theorem guards_follows (guards : Guards S Φ I) {p : Plan} {Ψ : Event Client → Prop}
    {work : Work σ α} (follows : Follows p (stage S params).toBackend Ψ work)
    (granted : ∀ e, Ψ e → Grants Φ e) : Keeps (InWorld I) work := by
  intro b before
  obtain ⟨es, course, all⟩ := follows b
  have kept : I (work b).2.world :=
    course.chain.keeps (guards_happens guards) (fun e he => granted e (all e he)) before
  exact kept

end Live

end Testbed
