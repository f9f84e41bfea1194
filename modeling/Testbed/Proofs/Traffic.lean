import Testbed.Live.Stage
import Testbed.Proofs.Ledger
import Testbed.Proofs.Result

/-!
# Contacts with the outside

A contact is an attempt to connect, something sent over a connection, the start of a process, or a
temporary entry. A system can be observed, so that all contacts are noted, those over a connection
with the target of the connection. What contacts an event comes down to is said once for every kind
of event.
-/

namespace Testbed

open Connection (Resolved)

/-- What leaves the tool. -/
inductive Contact where
  | connected (target : Resolved)
  | executed (target : Resolved) (statement : Sql.Statement)
  | counted (target : Resolved) (name : String)
  | listed (target : Resolved) (names : List String)
  | started (invocation : Script.Invocation)
  | madeDirectory (stem : String)
  | madeFile (stem ending : String)

namespace Contact

def isServer : Contact → Bool
  | connected _ | executed .. | counted .. | listed .. => true
  | started _ | madeDirectory _ | madeFile .. => false

def statement? : Contact → Option Sql.Statement
  | executed _ statement => some statement
  | _ => none

end Contact

def statements (contacts : List Contact) : List Sql.Statement :=
  contacts.filterMap Contact.statement?

/-- A world together with all contacts so far. -/
structure Traffic (σ : Type) where
  world : σ
  contacts : List Contact := []

namespace Traffic

variable {σ α : Type}

def noting (contact : Contact) (f : σ → α × σ) (t : Traffic σ) : α × Traffic σ :=
  let (answer, world) := f t.world
  (answer, { world, contacts := t.contacts ++ [contact] })

def passing (f : σ → α × σ) (t : Traffic σ) : α × Traffic σ :=
  let (answer, world) := f t.world
  (answer, { t with world })

def changing (f : σ → σ) (t : Traffic σ) : Traffic σ :=
  { t with world := f t.world }

end Traffic

open Traffic

/-- The system with all contacts noted. It answers as the system does, and a client knows its
target. -/
def System.observed {σ Client : Type} (S : System σ Client) :
    System (Traffic σ) (Client × Resolved) where
  environment t := S.environment t.world
  workingDirectory t := S.workingDirectory t.world
  directoryFault t := S.directoryFault t.world
  connect target t :=
    let (answer, t) := noting (.connected target) (S.connect target) t
    (answer.map (·, target), t)
  execute client s := noting (.executed client.2 s) (S.execute client.1 s)
  countDatabases client name := noting (.counted client.2 name) (S.countDatabases client.1 name)
  tablesAmong client names := noting (.listed client.2 names) (S.tablesAmong client.1 names)
  disconnect client := changing (S.disconnect client.1)
  start i := noting (.started i) (S.start i)
  readFile path t := S.readFile path t.world
  makeDirectory stem := noting (.madeDirectory stem) (S.makeDirectory stem)
  makeFile stem ending := noting (.madeFile stem ending) (S.makeFile stem ending)
  writeFile path content := passing (S.writeFile path content)
  removeDirectory path := changing (S.removeDirectory path)
  removeFile path := changing (S.removeFile path)

namespace Live

open Fixture Work

variable {σ Client α : Type} {S : System σ Client} {params : Connection.Params}
  {Φ : Contact → Prop}

def Only (Φ : Contact → Prop) (t : Traffic σ) : Prop :=
  ∀ c ∈ t.contacts, Φ c

theorem only_noting {contact : Contact} {f : σ → α × σ} {t : Traffic σ} (allowed : Φ contact)
    (before : Only Φ t) : Only Φ (noting contact f t).2 :=
  List.forall_mem_append.mpr ⟨before, List.forall_mem_singleton.mpr allowed⟩

def Emptying : Sql.Statement → Prop
  | .truncateTable _ | .begin | .commit | .rollback => True
  | .dropDatabase _ | .createDatabase .. => False

/-- The contacts to which an event can come down are allowed. Databases are looked up, dropped and
made over a connection to the maintenance database. -/
def Brings (Φ : Contact → Prop) : Event (Client × Resolved) → Prop
  | .lookedUp name _ => ∀ t, t.database = maintenanceDatabase →
    Φ (.connected t) ∧ Φ (.counted t name)
  | .dropped name _ => ∀ t, t.database = maintenanceDatabase →
    Φ (.connected t) ∧ Φ (.executed t (.dropDatabase name))
  | .created name template _ => ∀ t, t.database = maintenanceDatabase →
    Φ (.connected t) ∧ Φ (.executed t (.createDatabase name template))
  | .truncated database names _ => ∀ t, t.database = database →
    Φ (.connected t) ∧ Φ (.listed t names) ∧ ∀ s, Emptying s → Φ (.executed t s)
  | .opened database _ => ∀ t, t.database = database → Φ (.connected t)
  | .ranScript i _ | .ranCommand i _ => Φ (.started i)
  | .madeDirectory stem _ => Φ (.madeDirectory stem)
  | .madeFile stem ending _ => Φ (.madeFile stem ending)
  | .closed _ | .wrote .. | .removedDirectory _ | .removedFile _ => True

section Requests

variable {t : Traffic σ} {database : String}

theorem resolve_database {vars : Variables} {target : Resolved}
    (h : params.resolve vars database = .ok target) : target.database = database := by
  obtain ⟨port, -, same⟩ := bind_eq_ok_iff.mp h
  obtain rfl := Except.ok.inj same
  rfl

/-- A client that is connected knows the database to which it is. -/
theorem connect_observed {client : Client × Resolved} {t' : Traffic σ}
    (h : connect S.observed params database t = (.ok client, t')) :
    client.2.database = database := by
  unfold connect at h
  split at h
  · cases (Prod.mk.inj h).1
  · rename_i target resolved
    unfold asking at h
    simp only [System.observed, noting] at h
    cases answered : (S.connect target t.world).1 with
    | error fault =>
      rw [answered] at h
      cases (Prod.mk.inj h).1
    | ok c =>
      rw [answered] at h
      obtain rfl := Except.ok.inj (Prod.mk.inj h).1
      exact resolve_database resolved

theorem only_connect (allowed : ∀ target : Resolved, target.database = database →
    Φ (.connected target)) (before : Only Φ t) :
    Only Φ (connect S.observed params database t).2 := by
  unfold connect
  split
  · exact before
  · rename_i target resolved
    exact only_noting (allowed target (resolve_database resolved)) before

/-- Work over a connection makes the contacts of connecting and those of the work. -/
theorem only_withClient {work : Client × Resolved → Action (Traffic σ) α}
    (allowed : ∀ target : Resolved, target.database = database → Φ (.connected target) ∧
      ∀ client t, Only Φ t → Only Φ (work (client, target) t).2)
    (before : Only Φ t) : Only Φ (withClient S.observed params database work t).2 := by
  have connected : Only Φ (connect S.observed params database t).2 :=
    only_connect (fun target same => (allowed target same).1) before
  unfold withClient
  split
  · rename_i h
    rwa [h] at connected
  · rename_i client t' h
    rw [h] at connected
    exact (allowed client.2 (connect_observed h)).2 client.1 t' connected

theorem only_executeAll {client : Client × Resolved} {work : List (ServerTask × Sql.Statement)}
    (allowed : ∀ step ∈ work, Φ (.executed client.2 step.2)) (before : Only Φ t) :
    Only Φ (executeAll S.observed client work t).2 := by
  induction work generalizing t with
  | nil => exact before
  | cons step work ih =>
    obtain ⟨task, statement⟩ := step
    obtain ⟨first, others⟩ := List.forall_mem_cons.mp allowed
    have sent : Only Φ (asking task (S.observed.execute client statement) t).2 :=
      only_noting first before
    unfold executeAll
    split <;> rename_i h <;> rw [h] at sent
    · exact ih others sent
    · exact sent

theorem only_transaction {client : Client × Resolved} {work : List (ServerTask × Sql.Statement)}
    (allowed : ∀ s, Emptying s → Φ (.executed client.2 s))
    (emptying : ∀ step ∈ work, Emptying step.2) (before : Only Φ t) :
    Only Φ (transaction S.observed client work t).2 := by
  have sent : Only Φ (executeAll S.observed client ((.begin, .begin) :: work) t).2 := by
    refine only_executeAll (List.forall_mem_cons.mpr ⟨allowed _ trivial, ?_⟩) before
    exact fun step mem => allowed _ (emptying step mem)
  unfold transaction
  split <;> rename_i h <;> rw [h] at sent
  · exact only_noting (allowed _ trivial) sent
  · exact only_noting (allowed _ trivial) sent

theorem only_truncateTables {names : List String} (allowed : ∀ target : Resolved,
    target.database = database → Φ (.connected target) ∧ Φ (.listed target names) ∧
      ∀ s, Emptying s → Φ (.executed target s)) (before : Only Φ t) :
    Only Φ (truncateTables S.observed params database names t).2 := by
  refine only_withClient (fun target same => ?_) before
  obtain ⟨connected, listed, emptying⟩ := allowed target same
  refine ⟨connected, fun client t before => ?_⟩
  have asked : Only Φ (asking (.listTables database)
      (S.observed.tablesAmong (client, target) names) t).2 := only_noting listed before
  dsimp only
  split <;> rename_i h <;> rw [h] at asked
  · exact asked
  · refine only_transaction emptying ?_ asked
    intro step mem
    obtain ⟨table, -, rfl⟩ := List.mem_map.mp mem
    trivial

theorem only_runCommand {i : Script.Invocation} (allowed : Φ (.started i)) (before : Only Φ t) :
    Only Φ (runCommand S.observed i t).2 := by
  have started : Only Φ (S.observed.start i t).2 := only_noting allowed before
  unfold runCommand
  split
  · exact before
  · split <;> rename_i h <;> rwa [h] at started

end Requests

/-- An event makes no contacts but those to which it can come down. -/
theorem only_happens {t t' : Traffic σ} {e : Event (Client × Resolved)}
    (happens : (stage S.observed params).toBackend.Happens t e t') (allowed : Brings Φ e)
    (before : Only Φ t) : Only Φ t' := by
  have after {β : Type} {f : Traffic σ → β × Traffic σ} {answer : β} (kept : Only Φ (f t).2)
      (asked : f t = (answer, t')) : Only Φ t' := by
    rwa [asked] at kept
  cases e <;> simp only [Backend.Happens, stage] at happens
  case lookedUp name answer =>
    refine after (only_withClient (fun target same => ?_) before) happens
    exact ⟨(allowed target same).1, fun client t => only_noting (allowed target same).2⟩
  case dropped name answer =>
    refine after (only_withClient (fun target same => ?_) before) happens
    exact ⟨(allowed target same).1, fun client t => only_noting (allowed target same).2⟩
  case created name template answer =>
    refine after (only_withClient (fun target same => ?_) before) happens
    exact ⟨(allowed target same).1, fun client t => only_noting (allowed target same).2⟩
  case truncated database names answer => exact after (only_truncateTables allowed before) happens
  case opened database answer => exact after (only_connect allowed before) happens
  case ranScript i answer =>
    obtain ⟨records, ran⟩ := happens
    have kept : Only Φ (runScript S.observed i t).2 := only_runCommand allowed before
    exact after kept ran
  case madeDirectory stem answer => exact after (only_noting allowed before) happens
  case madeFile stem ending answer => exact after (only_noting allowed before) happens
  case wrote path content answer =>
    have kept : Only Φ (S.observed.writeFile path content t).2 := before
    exact after kept happens
  case closed | removedDirectory | removedFile => exact happens ▸ before

/-- Work makes allowed contacts only, if all that it may ask for comes down to such contacts. -/
theorem only_follows {p : Plan} {Ψ : Event (Client × Resolved) → Prop} {work : Work (Traffic σ) α}
    (follows : Follows p (stage S.observed params).toBackend Ψ work)
    (allowed : ∀ e, Ψ e → Brings Φ e) : Keeps (InWorld (Only Φ)) work := by
  intro b before
  obtain ⟨es, course, all⟩ := follows b
  have kept : Only Φ (work b).2.world :=
    course.chain.keeps only_happens (fun e he => allowed e (all e he)) before
  exact kept

end Live

end Testbed
