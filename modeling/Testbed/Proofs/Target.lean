import Testbed.Proofs.ConnectionString
import Testbed.Proofs.Port

/-!
# Where a connection leads

Each setting of a connection is the configured one, else the first of its variables that is set and
not empty, else the default. The variables of a configured setting are never looked at. The
connection string holds the configured settings and no other, in the very words that the tool goes
by, so the application is sent where the tool connects.
-/

namespace Testbed.Connection

inductive Setting where
  | host
  | port
  | user
  | password
  deriving DecidableEq, Repr

namespace Setting

def name : Setting → String
  | host => "host"
  | port => "port"
  | user => "user"
  | password => "password"

def configured (p : Params) : Setting → Option String
  | host => p.host
  | port => p.port
  | user => p.user
  | password => p.password

/-- The variables that fill the gap, in the order in which they are asked. -/
def fallbacks : Setting → List String
  | host => ["PGHOST"]
  | port => ["PGPORT"]
  | user => ["PGUSER", "USER"]
  | password => ["PGPASSWORD"]

/-- The text that counts. A variable that is set to nothing is passed over. -/
def effective (p : Params) (vars : Variables) (s : Setting) : Option String :=
  (s.configured p).or (s.fallbacks.findSome? fun name => (vars name).filter (· ≠ ""))

end Setting

def Resolved.GoesBy (target : Resolved) : Setting → String → Prop
  | .host, text => target.host = Host.ofText text
  | .port, text => ∃ n, IsPort text n ∧ target.port = some n
  | .user, text => target.user = some text
  | .password, text => target.password = some text

def Resolved.Defaults (target : Resolved) : Setting → Prop
  | .host => target.host = .socket "/var/run/postgresql"
  | .port => target.port = none
  | .user => target.user = none
  | .password => target.password = none

/-- The setting is decided by a text, or by nobody. -/
def Resolved.Obeys (target : Resolved) (s : Setting) : Option String → Prop
  | some text => target.GoesBy s text
  | none => target.Defaults s

theorem Setting.name_injective {s t : Setting} (same : s.name = t.name) : s = t := by
  cases s <;> cases t <;> simp [Setting.name] at same ⊢

variable {p : Params} {vars : Variables} {database : String}

theorem Setting.effective_of_configured {s : Setting} {text : String}
    (h : s.configured p = some text) (vars : Variables) : s.effective p vars = some text := by
  rw [effective, h]
  rfl

/-- The variables of a configured setting do not count. -/
theorem Setting.effective_congr {s : Setting} {other : Variables}
    (same : s.configured p = none → ∀ name ∈ s.fallbacks, vars name = other name) :
    s.effective p vars = s.effective p other := by
  cases h : s.configured p with
  | some text => rw [effective_of_configured h, effective_of_configured h]
  | none =>
    have agree := same h
    have found (names : List String) (agree : ∀ name ∈ names, vars name = other name) :
        (names.findSome? fun name => (vars name).filter (· ≠ "")) =
          names.findSome? fun name => (other name).filter (· ≠ "") := by
      induction names with
      | nil => rfl
      | cons name names ih =>
        obtain ⟨first, rest⟩ := List.forall_mem_cons.mp agree
        rw [List.findSome?_cons, List.findSome?_cons, first, ih rest]
    rw [effective, effective, found s.fallbacks agree]

theorem nonEmpty_eq (vars : Variables) (name : String) :
    vars.nonEmpty name = (vars name).filter (· ≠ "") := by
  have same : (fun text : String => !text.isEmpty) = fun text => decide (text ≠ "") := by
    funext text
    rw [Bool.eq_iff_iff]
    simp
  rw [Variables.nonEmpty, same]

/-- A connection is described by the texts that count, and only the port may be wrong. -/
theorem Params.resolve_eq (p : Params) (vars : Variables) (database : String) :
    p.resolve vars database = (portOf (Setting.port.effective p vars)).map fun port =>
      { database
        host := ((Setting.host.effective p vars).map Host.ofText).getD Host.standard
        port
        user := Setting.user.effective p vars
        password := Setting.password.effective p vars } := by
  have both (f : String → Option String) (first second : String) :
      [first, second].findSome? f = (f first).or (f second) := by
    rw [List.findSome?_cons, List.findSome?_singleton]
    cases f first <;> rfl
  unfold resolve Setting.effective
  simp only [Setting.configured, Setting.fallbacks, List.findSome?_singleton, both, nonEmpty_eq,
    Option.orElse_eq_orElse, Option.orElse_eq_or]
  cases portOf (p.port.or ((vars "PGPORT").filter (· ≠ ""))) <;> rfl

theorem Params.resolve_error_iff_port {e : BadPort} : p.resolve vars database = .error e ↔
    Setting.port.effective p vars = some e.text ∧ ∀ n, ¬ IsPort e.text n := by
  rw [Params.resolve_eq, ← portOf_error_iff]
  cases portOf (Setting.port.effective p vars) with
  | error => constructor <;> rintro ⟨rfl⟩ <;> rfl
  | ok => exact ⟨nofun, nofun⟩

theorem portOf_ok_iff {target : Resolved} {text : Option String} :
    portOf text = .ok target.port ↔ target.Obeys .port text := by
  cases text with
  | none =>
    constructor
    · intro h
      exact (Except.ok.inj h).symm
    · intro unset
      exact congrArg Except.ok (Eq.symm unset)
  | some text =>
    rw [portOf]
    constructor
    · intro h
      split at h
      · rename_i n read
        exact ⟨n, Text.word16?_eq_some_iff.mp read, (Except.ok.inj h).symm⟩
      · cases h
    · rintro ⟨n, numeral, same⟩
      rw [Text.word16?_eq_some_iff.mpr numeral, same]

theorem Params.resolve_ok_iff {target : Resolved} : p.resolve vars database = .ok target ↔
    target.database = database ∧ ∀ s : Setting, target.Obeys s (s.effective p vars) := by
  have host (text : Option String) :
      target.Obeys .host text ↔ target.host = (text.map Host.ofText).getD Host.standard := by
    cases text <;> rfl
  have user (text : Option String) : target.Obeys .user text ↔ target.user = text := by
    cases text <;> rfl
  have password (text : Option String) :
      target.Obeys .password text ↔ target.password = text := by
    cases text <;> rfl
  rw [resolve_eq]
  constructor
  · intro h
    cases read : portOf (Setting.port.effective p vars) with
    | error e =>
      rw [read] at h
      cases h
    | ok port =>
      rw [read] at h
      obtain rfl := Except.ok.inj h
      refine ⟨rfl, fun s => ?_⟩
      cases s with
      | host => exact (host _).mpr rfl
      | port => exact portOf_ok_iff.mp read
      | user => exact (user _).mpr rfl
      | password => exact (password _).mpr rfl
  · rintro ⟨rfl, obeys⟩
    rw [portOf_ok_iff.mpr (obeys .port), ← (user _).mp (obeys .user),
      ← (password _).mp (obeys .password), ← (host _).mp (obeys .host)]
    rfl

/-- What is configured is what the connection string says. -/
theorem Params.mem_given_iff {name text : String} :
    (name, text) ∈ p.given ↔ ∃ s : Setting, s.name = name ∧ s.configured p = some text := by
  rw [mem_given, named]
  constructor
  · intro mem
    simp only [List.mem_cons, Prod.mk.injEq, List.not_mem_nil, or_false] at mem
    rcases mem with ⟨rfl, set⟩ | ⟨rfl, set⟩ | ⟨rfl, set⟩ | ⟨rfl, set⟩
    · exact ⟨.host, rfl, set.symm⟩
    · exact ⟨.port, rfl, set.symm⟩
    · exact ⟨.user, rfl, set.symm⟩
    · exact ⟨.password, rfl, set.symm⟩
  · rintro ⟨s, rfl, set⟩
    cases s <;> simp_all [Setting.name, Setting.configured]

/-- For every setting there is at most one segment. -/
theorem Params.nodup_given (p : Params) : (p.given.map Prod.fst).Nodup := by
  have sub (f : String × Option String → Option (String × String))
      (keeps : ∀ entry segment, f entry = some segment → segment.1 = entry.1)
      (named : List (String × Option String)) :
      ((named.filterMap f).map Prod.fst).Sublist (named.map Prod.fst) := by
    induction named with
    | nil => exact .slnil
    | cons entry named ih =>
      cases h : f entry with
      | none =>
        rw [List.filterMap_cons_none h]
        exact ih.cons entry.1
      | some segment =>
        rw [List.filterMap_cons_some h, List.map_cons, List.map_cons, keeps entry segment h]
        exact ih.cons_cons entry.1
  refine (sub _ (fun entry segment h => ?_) p.named).nodup (by simp [named])
  obtain ⟨text, -, rfl⟩ := Option.map_eq_some_iff.mp h
  rfl

/-- A configured setting is what the connection goes by, and of any other setting its variables
decide. So two processes connect alike if they agree on these. The segments of the connection string
are the configured settings, with the texts that the connection goes by. They can be read off it if
no text has a semicolon. -/
theorem settings_prevail (p : Params) (database : String) :
    (∀ (vars : Variables) (e : BadPort), p.resolve vars database = .error e ↔
      Setting.port.effective p vars = some e.text ∧ ∀ n, ¬ IsPort e.text n) ∧
    (∀ (vars : Variables) (target : Resolved), p.resolve vars database = .ok target ↔
      target.database = database ∧ ∀ s : Setting, target.Obeys s (s.effective p vars)) ∧
    (∀ vars other : Variables,
      (∀ s : Setting, s.configured p = none → ∀ name ∈ s.fallbacks, vars name = other name) →
      p.resolve vars database = p.resolve other database) ∧
    ((∀ s : Setting, s.configured p ≠ none) →
      ∀ vars other : Variables, p.resolve vars database = p.resolve other database) ∧
    p.dsn database = "pgsql:dbname=" ++ database ++
      String.join (p.given.map fun (name, text) => ";" ++ name ++ "=" ++ text) ∧
    (p.given.map Prod.fst).Nodup ∧
    (∀ name text, (name, text) ∈ p.given ↔
      ∃ s : Setting, s.name = name ∧ s.configured p = some text) ∧
    (∀ (vars : Variables) (target : Resolved), p.resolve vars database = .ok target →
      ∀ (s : Setting) (text : String), (s.name, text) ∈ p.given → target.GoesBy s text) ∧
    (p.Plain database → readDsn? (p.dsn database) = some (("dbname", database) :: p.given)) := by
  have alike (vars other : Variables) (same : ∀ s : Setting, s.configured p = none →
      ∀ name ∈ s.fallbacks, vars name = other name) :
      p.resolve vars database = p.resolve other database := by
    have effective (s : Setting) : s.effective p vars = s.effective p other :=
      Setting.effective_congr (same s)
    rw [p.resolve_eq, p.resolve_eq, effective .host, effective .port, effective .user,
      effective .password]
  refine ⟨fun vars e => Params.resolve_error_iff_port, fun vars target => Params.resolve_ok_iff,
    alike, ?_, p.dsn_given database, p.nodup_given, fun name text => Params.mem_given_iff, ?_,
    fun plain => (p.readDsn?_eq_fields_iff database).mpr plain⟩
  · intro all vars other
    exact alike vars other fun s unset => absurd unset (all s)
  · intro vars target resolved s text mem
    obtain ⟨found, named, configured⟩ := Params.mem_given_iff.mp mem
    obtain rfl := Setting.name_injective named
    have obeys := (Params.resolve_ok_iff.mp resolved).2 found
    rwa [Setting.effective_of_configured configured] at obeys

/-- A host is configured, the port and the user come from variables, one of them set to nothing, and
there is no password. A bad variable does harm only where its setting is not configured. -/
theorem settings_prevail_mixed :
    let p : Params := { host := some "db" }
    let whole : Params := ⟨some "db", some "80", some "osm", some "secret"⟩
    let vars : Variables := fun name => [("PGHOST", "elsewhere"), ("PGPORT", "5433"),
      ("PGUSER", ""), ("USER", "osm")].lookup name
    let other : Variables := fun name => if name = "PGHOST" then none else vars name
    let bad : Variables := fun name => if name = "PGPORT" then some "x" else none
    p.resolve vars "gis" = .ok ⟨"gis", .tcp "db", some 5433, some "osm", none⟩ ∧
      p.resolve vars "gis" = p.resolve other "gis" ∧
      p.resolve bad "gis" = .error ⟨"x"⟩ ∧
      whole.resolve bad "gis" = whole.resolve vars "gis" ∧
      p.Plain "gis" ∧ readDsn? (p.dsn "gis") = some [("dbname", "gis"), ("host", "db")] := by
  intro p whole vars other bad
  obtain ⟨failed, reached, alike, -, -, -, -, -, read⟩ := settings_prevail p "gis"
  obtain ⟨-, -, -, deaf, -⟩ := settings_prevail whole "gis"
  have numeral : IsPort "5433" 5433 := Text.word16?_eq_some_iff.mp (by decide +kernel)
  have noNumeral : ∀ n, ¬ IsPort "x" n := by
    intro n numeral
    cases (Text.word16?_eq_some_iff.mpr numeral).symm.trans
      (by decide +kernel : Text.word16? "x".toList = none)
  have plain : p.Plain "gis" := by simp [p, Params.Plain]
  refine ⟨(reached vars _).mpr ⟨rfl, fun s => ?_⟩, alike vars other fun s unset name mem => ?_,
    (failed bad ⟨"x"⟩).mpr ⟨by decide +kernel, noNumeral⟩, deaf (fun s => ?_) bad vars, plain,
    read plain⟩
  · cases s with
    | host => rfl
    | port => exact ⟨5433, numeral, rfl⟩
    | user =>
      have text : Setting.user.effective p vars = some "osm" := by decide +kernel
      rw [text]
      rfl
    | password => rfl
  · cases s with
    | host => cases unset
    | _ =>
      simp only [Setting.fallbacks, List.mem_cons, List.not_mem_nil, or_false] at mem
      rcases mem with rfl | rfl <;> rfl
  · cases s <;> nofun

end Testbed.Connection
