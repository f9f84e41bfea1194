import Testbed.Proofs.Transaction

/-!
# A server with transactions

Databases are lists of tables with numbers of rows, and a list of troubles says which of the coming
requests fail. All that is assumed of a server with transactions holds of this one.
-/

namespace Testbed.Live

variable {α : Type}

inductive Stand where
  | idle
  | working (tables : List String)
  | aborted

def Stand.tables? : Stand → Option (List String)
  | working tables => some tables
  | idle | aborted => none

theorem Stand.eq_working {stand : Stand} {tables : List String} (h : stand.tables? = some tables) :
    stand = .working tables := by
  cases stand with
  | working => exact congrArg _ (Option.some.inj h)
  | idle | aborted => cases h

/-- Databases and the clients connected to them. A client is the name of its database. -/
structure TableServer where
  contents : String → List (String × Nat)
  stands : String → Stand := fun _ => .idle
  /-- Whether the coming requests fail. All that follow do not. -/
  troubles : List Bool := []

namespace TableServer

def move (s : TableServer) (client : String) (stand : Stand) : TableServer :=
  { s with stands := fun c => if c = client then stand else s.stands c }

def request (client : String) (answer : TableServer → Except ClientFault α × TableServer)
    (s : TableServer) : Except ClientFault α × TableServer :=
  match s.troubles with
  | true :: rest => (.error .refused, { s.move client .aborted with troubles := rest })
  | _ => answer { s with troubles := s.troubles.tail }

def execute (client : String) (statement : Sql.Statement) (s : TableServer) :
    Except ClientFault Unit × TableServer :=
  match statement, s.stands client with
  | .begin, _ => (.ok (), s.move client (.working []))
  | .rollback, _ => (.ok (), s.move client .idle)
  | .truncateTable table, .idle =>
    (.ok (), { s with contents := emptied client [table] s.contents })
  | .truncateTable table, .working tables =>
    (.ok (), s.move client (.working (tables ++ [table])))
  | .commit, .working tables =>
    (.ok (), { s.move client .idle with contents := emptied client tables s.contents })
  | .commit, _ => (.ok (), s.move client .idle)
  | _, _ => (.error .refused, s)

def system : System TableServer String where
  environment _ _ := none
  workingDirectory _ := "/"
  directoryFault _ := none
  connect target := request target.database fun s =>
    (.ok target.database, s.move target.database .idle)
  execute client statement := request client (execute client statement)
  countDatabases client _ := request client fun s => (.ok 1, s)
  tablesAmong client names := request client fun s =>
    (.ok (((s.contents client).map (·.1)).filter (· ∈ names)), s)
  disconnect client s := s.move client .idle
  start _ s := (.error .permissionDenied, s)
  readFile _ _ := .error .permissionDenied
  makeDirectory _ s := (.error ⟨.permissionDenied, "/tmp"⟩, s)
  makeFile _ _ s := (.error ⟨.permissionDenied, "/tmp"⟩, s)
  writeFile _ _ s := (.error .permissionDenied, s)
  removeDirectory _ s := s
  removeFile _ s := s

theorem request_cases {client : String} {answer : TableServer → Except ClientFault α × TableServer}
    {s s' : TableServer} {r : Except ClientFault α} (h : request client answer s = (r, s')) :
    (r = .error .refused ∧ s'.contents = s.contents) ∨
      ∃ rest, answer { s with troubles := rest } = (r, s') := by
  unfold request at h
  split at h
  · obtain ⟨rfl, rfl⟩ := Prod.mk.inj h
    exact .inl ⟨rfl, rfl⟩
  · exact .inr ⟨_, h⟩

theorem move_stands (s : TableServer) (client : String) (stand : Stand) :
    (s.move client stand).stands client = stand := if_pos rfl

theorem execute_truncateTable {client table : String} {tables : List String} {s : TableServer}
    (h : s.stands client = .working tables) : execute client (.truncateTable table) s =
      (.ok (), s.move client (.working (tables ++ [table]))) := by
  unfold execute
  rw [h]

theorem execute_commit {client : String} {tables : List String} {s : TableServer}
    (h : s.stands client = .working tables) : execute client .commit s =
      (.ok (), { s.move client .idle with contents := emptied client tables s.contents }) := by
  unfold execute
  rw [h]

/-- All that is assumed of a server with transactions holds of this one. -/
def transactional : Transactional system where
  contents := contents
  home client := client
  pending client s := (s.stands client).tables?
  connected h := by
    simp only [system] at h
    obtain ⟨rfl, same⟩ | ⟨rest, answered⟩ := request_cases h
    · exact ⟨same, nofun⟩
    · obtain ⟨rfl, rfl⟩ := Prod.mk.inj answered
      exact ⟨rfl, fun _ same => (Except.ok.inj same).symm⟩
  listed h := by
    simp only [system] at h
    obtain ⟨rfl, same⟩ | ⟨rest, answered⟩ := request_cases h
    · exact ⟨same, nofun⟩
    · obtain ⟨rfl, rfl⟩ := Prod.mk.inj answered
      exact ⟨rfl, fun _ same => (Except.ok.inj same).symm⟩
  begun h := by
    simp only [system] at h
    obtain ⟨rfl, same⟩ | ⟨rest, answered⟩ := request_cases h
    · exact ⟨same, nofun⟩
    · obtain ⟨rfl, rfl⟩ := Prod.mk.inj answered
      exact ⟨rfl, fun _ => by rw [move_stands, Stand.tables?]⟩
  truncated pending h := by
    simp only [system] at h
    obtain ⟨rfl, same⟩ | ⟨rest, answered⟩ := request_cases h
    · exact ⟨same, nofun⟩
    · have working := Stand.eq_working pending
      obtain ⟨rfl, rfl⟩ :=
        Prod.mk.inj ((execute_truncateTable (by exact working)).symm.trans answered)
      exact ⟨rfl, fun _ => by rw [move_stands, Stand.tables?]⟩
  rolledBack h := by
    simp only [system] at h
    obtain ⟨rfl, same⟩ | ⟨rest, answered⟩ := request_cases h
    · exact same
    · obtain ⟨rfl, rfl⟩ := Prod.mk.inj answered
      rfl
  committed pending h := by
    simp only [system] at h
    obtain ⟨rfl, same⟩ | ⟨rest, answered⟩ := request_cases h
    · exact .inr ⟨nofun, same⟩
    · have working := Stand.eq_working pending
      obtain ⟨rfl, rfl⟩ :=
        Prod.mk.inj ((execute_commit (by exact working)).symm.trans answered)
      exact .inl rfl
  disconnected _ _ := rfl

end TableServer

end Testbed.Live
