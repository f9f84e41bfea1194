import Testbed.Proofs.Ledger
import Testbed.Rehearsal.Machine

/-!
# A rehearsal machine keeps its databases

Of all that can be asked of a rehearsal machine, only the statements that make and drop databases
change its list of names, and no process gets at the server. So a database that is listed once stays
until it is dropped.
-/

namespace Testbed.Rehearsal

namespace Server

theorem connect_databases (target : Connection.Resolved) (s : Server) :
    (s.connect target).2.databases = s.databases := by
  unfold connect
  split
  · rfl
  · dsimp only
    split
    · rfl
    · split <;> rfl

theorem query_databases {α : Type} (sql : String) (parameter : Parameter) (answer : Server → α)
    (s : Server) : (query sql parameter answer s).2.databases = s.databases := by
  unfold query
  dsimp only
  split <;> rfl

/-- Among the statements, only the drop of a database changes how often its name is listed, if it is
listed once. -/
theorem after?_count {name : String} {statement : Sql.Statement} {s : Server}
    {databases : List String} (other : statement ≠ .dropDatabase name)
    (once : s.databases.count name = 1) (h : s.after? statement = some databases) :
    databases.count name = 1 := by
  cases statement with
  | dropDatabase dropped =>
    have different : name ≠ dropped := fun same => other (same ▸ rfl)
    have kept : (s.databases.filter (· ≠ dropped)).count name = s.databases.count name :=
      List.count_filter (decide_eq_true different)
    obtain rfl := Option.some.inj h
    exact kept.trans once
  | createDatabase new template =>
    simp only [after?] at h
    split at h
    · rename_i fresh
      have there : name ∈ s.databases := List.count_pos_iff.mp (by omega)
      have absent : new ∉ s.databases := by simpa using (Bool.and_eq_true_iff.mp fresh).2
      have different : new ≠ name := fun same => absent (same ▸ there)
      obtain rfl := Option.some.inj h
      simpa [List.count_append, List.count_singleton, different] using once
    · cases h
  | _ =>
    obtain rfl := Option.some.inj h
    exact once

theorem execute_count {name : String} {statement : Sql.Statement} {s : Server}
    (other : statement ≠ .dropDatabase name) (once : s.databases.count name = 1) :
    (execute statement s).2.databases.count name = 1 := by
  unfold execute
  dsimp only
  split
  · exact once
  split
  · rename_i changed
    exact after?_count other once changed
  · exact once

end Server

namespace Machine

theorem start_server (i : Script.Invocation) (m : Machine) : (start i m).2.server = m.server := by
  unfold start
  dsimp only
  split <;> rfl

/-- On a rehearsal machine a database that is listed once stays until it is dropped. -/
theorem holds (name : String) :
    system.Holds name fun m => m.server.databases.count name = 1 where
  counted {client n w w'} once answer := by
    have answered := congrArg Prod.fst answer
    simp only [system, onServer, Server.countDatabases, Server.query] at answered
    split at answered
    · cases answered
    · exact (Except.ok.inj answered).symm.trans once
  kept {w deed w'} request quiet other once := by
    cases request with
    | executed client s =>
      exact Server.execute_count (fun same => other (congrArg _ (congrArg _ same))) once
    | started i => exact absurd rfl (quiet i)
    | connected target =>
      have kept := Server.connect_databases target w.server
      exact (congrArg (List.count name) kept).trans once
    | counted client asked =>
      have kept : (Server.countDatabases asked w.server).2.databases = w.server.databases :=
        Server.query_databases ..
      exact (congrArg (List.count name) kept).trans once
    | listed client names =>
      have kept : (Server.tablesAmong names w.server).2.databases = w.server.databases :=
        Server.query_databases ..
      exact (congrArg (List.count name) kept).trans once
    | _ => exact once

theorem harmless (name : String) (i : Script.Invocation) :
    system.Harmless (fun m => m.server.databases.count name = 1) i := by
  intro m once
  change (start i m).2.server.databases.count name = 1
  rwa [start_server]

end Machine

end Testbed.Rehearsal
