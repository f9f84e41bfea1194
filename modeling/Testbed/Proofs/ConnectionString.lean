import Testbed.Proofs.Resolution
import Testbed.Proofs.Splitting

/-!
# Connection strings that can be read

A connection string separates its fields by semicolons and writes their values as they are. It is
taken apart at the semicolons, and each field at its first equals sign. This gives back what was
written if and only if no value has a semicolon. Equals signs in a value do no harm, and neither
does a value that looks like other fields but for the semicolon.
-/

namespace Testbed.Connection

open Text

def written (field : String × String) : List Char :=
  field.1.toList ++ '=' :: field.2.toList

def readField? (text : List Char) : Option (String × String) :=
  (cut? '=' text).map fun (name, value) => (String.ofList name, String.ofList value)

/-- The fields that a reader finds in a connection string. -/
def readDsn? (dsn : String) : Option (List (String × String)) :=
  (after? "pgsql:".toList dsn.toList).bind fun fields => (splitOn ';' fields).mapM readField?

theorem readField?_written {field : String × String} (h : '=' ∉ field.1.toList) :
    readField? (written field) = some field := by
  rw [readField?, written, cut?_append h]
  simp

namespace Params

/-- All fields of a connection string, that of the database first. -/
def fields (p : Params) (database : String) : List (String × String) :=
  ("dbname", database) :: p.given

/-- No text that is written into the connection string has a semicolon. -/
def Plain (p : Params) (database : String) : Prop :=
  ';' ∉ database.toList ∧
    ∀ value, some value ∈ [p.host, p.port, p.user, p.password] → ';' ∉ value.toList

theorem mem_given {p : Params} {name value : String} :
    (name, value) ∈ p.given ↔ (name, some value) ∈ p.named := by
  simp only [given, List.mem_filterMap, Option.map_eq_some_iff, Prod.mk.injEq]
  constructor
  · rintro ⟨⟨_, _⟩, mem, _, rfl, rfl, rfl⟩
    exact mem
  · exact fun mem => ⟨_, mem, value, rfl, rfl, rfl⟩

theorem given_injective {p q : Params} (same : p.given = q.given) : p = q := by
  have named (name value : String) :
      (name, some value) ∈ p.named ↔ (name, some value) ∈ q.named := by
    rw [← mem_given, ← mem_given, same]
  have host (value : String) : p.host = some value ↔ q.host = some value := by
    simpa [Params.named, eq_comm] using named "host" value
  have port (value : String) : p.port = some value ↔ q.port = some value := by
    simpa [Params.named, eq_comm] using named "port" value
  have user (value : String) : p.user = some value ↔ q.user = some value := by
    simpa [Params.named, eq_comm] using named "user" value
  have password (value : String) : p.password = some value ↔ q.password = some value := by
    simpa [Params.named, eq_comm] using named "password" value
  cases p
  cases q
  rw [Params.mk.injEq]
  exact ⟨Option.ext host, Option.ext port, Option.ext user, Option.ext password⟩

/-- The connection string joins its fields. -/
theorem toList_dsn (p : Params) (database : String) :
    (p.dsn database).toList = "pgsql:".toList ++ join ';' ((p.fields database).map written) := by
  rw [dsn_given, fields, List.map_cons, join_cons]
  simp [written, String.toList_join, List.flatMap_map]

/-- A reader finds the fields, taken apart once more where their values have semicolons. -/
theorem readDsn?_dsn (p : Params) (database : String) :
    readDsn? (p.dsn database) =
      (((p.fields database).map written).flatMap (splitOn ';')).mapM readField? := by
  rw [readDsn?, toList_dsn, after?_append, Option.bind_some, splitOn_join ';' (by simp [fields])]

/-- Names of fields are known, and no separator stands in any of them. -/
theorem name_of_mem_fields {p : Params} {database : String} {field : String × String}
    (h : field ∈ p.fields database) : '=' ∉ field.1.toList ∧ ';' ∉ field.1.toList := by
  rcases List.mem_cons.mp h with rfl | h
  · simp
  · have named := mem_given.mp h
    simp only [Params.named, List.mem_cons, Prod.mk.injEq, List.not_mem_nil, or_false] at named
    rcases named with ⟨name, -⟩ | ⟨name, -⟩ | ⟨name, -⟩ | ⟨name, -⟩ <;> simp [name]

theorem plain_iff {p : Params} {database : String} :
    p.Plain database ↔ ∀ text ∈ (p.fields database).map written, ';' ∉ text := by
  have field {field : String × String} (mem : field ∈ p.fields database) :
      ';' ∉ written field ↔ ';' ∉ field.2.toList := by
    simp [written, (name_of_mem_fields mem).2]
  have values (value : String) : some value ∈ [p.host, p.port, p.user, p.password] ↔
      ∃ name, (name, value) ∈ p.given := by
    simp only [mem_given, named, List.mem_cons, List.not_mem_nil, or_false, Prod.mk.injEq,
      exists_or, exists_and_right, exists_eq, true_and]
  rw [List.forall_mem_map]
  constructor
  · rintro ⟨first, others⟩ ⟨name, value⟩ mem
    rw [field mem]
    rcases List.mem_cons.mp mem with same | given
    · cases same
      exact first
    · exact others value ((values value).mpr ⟨name, given⟩)
  · intro clean
    refine ⟨(field (.head _)).mp (clean _ (.head _)), fun value mem => ?_⟩
    obtain ⟨name, given⟩ := (values value).mp mem
    exact (field (.tail _ given)).mp (clean _ (.tail _ given))

theorem readDsn?_eq_fields_iff (p : Params) (database : String) :
    readDsn? (p.dsn database) = some (p.fields database) ↔ p.Plain database := by
  rw [readDsn?_dsn, plain_iff]
  constructor
  · intro read
    have same := congrArg List.length (mapM_eq_some_iff.mp read)
    rw [← length_flatMap_splitOn_iff]
    simpa using same
  · intro clean
    rw [flatMap_splitOn_of_clean clean, mapM_eq_some_iff, List.map_map]
    exact List.map_congr_left fun field mem => readField?_written (name_of_mem_fields mem).1

end Params

/-- The reader finds the database and then the settings that are set if and only if none of them
has a semicolon. As long as none has, the connection string determines them all. -/
theorem dsn_readable (p : Params) (database : String) :
    (readDsn? (p.dsn database) = some (("dbname", database) :: p.given) ↔ p.Plain database) ∧
    (p.Plain database →
      (∃ fields, readDsn? (p.dsn database) = some fields ∧ ∀ name value,
        (name, value) ∈ fields ↔ (name, some value) ∈ ("dbname", some database) :: p.named) ∧
      ∀ (other : Params) (name : String), other.Plain name →
        other.dsn name = p.dsn database → other = p ∧ name = database) := by
  have read := p.readDsn?_eq_fields_iff database
  refine ⟨read, fun plain => ⟨⟨_, read.mpr plain, fun name value => ?_⟩, ?_⟩⟩
  · simp [Params.fields, Params.mem_given]
  · intro other name otherPlain same
    have fields : some (other.fields name) = some (p.fields database) := by
      rw [← (other.readDsn?_eq_fields_iff name).mpr otherPlain, same, read.mpr plain]
    obtain ⟨first, given⟩ := List.cons.inj (Option.some.inj fields)
    exact ⟨Params.given_injective given, (Prod.mk.inj first).2⟩

/-- The host looks like two other fields, and the user is empty. -/
theorem dsn_readable_equals :
    let p : Params := { host := some "port=1,user=osm", user := some "" }
    p.dsn "a=b" = "pgsql:dbname=a=b;host=port=1,user=osm;user=" ∧
      readDsn? (p.dsn "a=b") =
        some [("dbname", "a=b"), ("host", "port=1,user=osm"), ("user", "")] := by
  intro p
  have plain : p.Plain "a=b" := by simp [p, Params.Plain]
  exact ⟨by decide +kernel, (dsn_readable p "a=b").1.mpr plain⟩

/-- With a semicolon in it, a host is told apart from a host and a port no more. -/
example : ({ host := some "db;port=1" } : Params).dsn "x" =
    ({ host := some "db", port := some "1" } : Params).dsn "x" := by
  decide +kernel

end Testbed.Connection
