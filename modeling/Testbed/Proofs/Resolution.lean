import Testbed.CommandLine
import Testbed.Fixture
import Testbed.Proofs.Result

/-!
# What a resolved configuration can be relied on for

A configuration is resolved from a file, or from the defaults alone, and from overrides. Whatever
they say, what comes out has been normalised and checked at the end. So nothing that is read off it
later, be it the launcher, the plan of a fixture or the connection to the server, fails for a
reason that the check looks at.
-/

namespace Testbed

/-- The text has a character that is no blank. -/
def Text.Visible (s : String) : Prop :=
  ∃ c ∈ s.toList, Text.isBlank c = false

theorem Text.visible_iff (s : String) : Visible s ↔ onlyBlanks s.toList = false := by
  simp [Visible, onlyBlanks]

namespace Connection

/-- The settings that are set, in the order of the connection string. -/
def Params.given (p : Params) : List (String × String) :=
  p.named.filterMap fun (name, value) => value.map fun text => (name, text)

theorem segments_given (named : List (String × Option String)) :
    String.join (named.map segment) =
      String.join ((named.filterMap fun (name, value) => value.map fun text => (name, text)).map
        fun (name, text) => ";" ++ name ++ "=" ++ text) := by
  induction named with
  | nil => rfl
  | cons setting named ih =>
    obtain ⟨name, value⟩ := setting
    cases value with
    | none => simpa [segment] using ih
    | some text => simpa [segment] using ih

/-- A connection string consists of the settings that are set. -/
theorem Params.dsn_given (p : Params) (database : String) :
    p.dsn database = "pgsql:dbname=" ++ database ++
      String.join (p.given.map fun (name, text) => ";" ++ name ++ "=" ++ text) :=
  congrArg ("pgsql:dbname=" ++ database ++ ·) (segments_given p.named)

/-- A port that is configured decides alone whether a connection can be described. -/
theorem Params.resolve_of_port {p : Params} {port : String} {number : Nat}
    (configured : p.port = some port) (read : Text.word16? port.toList = some number)
    (vars : Variables) (database : String) : ∃ target, p.resolve vars database = .ok target := by
  have found : portOf (p.port <|> vars.nonEmpty "PGPORT") = .ok (some number) := by
    simp [portOf, configured, read]
  unfold resolve
  rw [found]
  exact ⟨_, rfl⟩

end Connection

namespace Config

open Text

/-- The optional settings that are texts. A directory is none of them. -/
def optionalTexts (c : Config) : List (Option String) :=
  [c.host, c.port, c.user, c.password, c.serverModulePath]

theorem visible_of_unlessBlank {value : Option String} {text : String}
    (h : unlessBlank value = some text) : Visible text := by
  rw [visible_iff]
  simpa using (Option.filter_eq_some_iff.mp h).2

theorem unlessBlank_unlessBlank (value : Option String) :
    unlessBlank (unlessBlank value) = unlessBlank value := by
  simp [unlessBlank, Option.filter_filter]

@[simp] theorem normalised_normalised (c : Config) : c.normalised.normalised = c.normalised := by
  simp [normalised, unlessBlank_unlessBlank, Option.filter_filter]

theorem checked_eq_ok_iff {c config : Config} :
    c.checked = .ok config ↔ config = c.normalised ∧ config.fault? = none := by
  unfold checked validate
  cases fault : c.normalised.fault? with
  | some found =>
    constructor
    · nofun
    · rintro ⟨rfl, valid⟩
      cases fault.symm.trans valid
  | none =>
    constructor
    · intro h
      obtain rfl : c.normalised = config := Except.ok.inj h
      exact ⟨rfl, fault⟩
    · rintro ⟨rfl, -⟩
      rfl

theorem fault?_of_checked {c config : Config} (h : c.checked = .ok config) :
    config.fault? = none :=
  (checked_eq_ok_iff.mp h).2

/-- Everything that the check looks at is in order. -/
structure Faultless (c : Config) : Prop where
  named : c.templateDatabase ≠ "" ∧ c.testDatabase ≠ "" ∧ c.apiDatabase ≠ ""
  differ : c.templateDatabase ≠ c.testDatabase
  port : ∀ port, c.port = some port → ∃ number, word16? port.toList = some number
  command : words c.scriptCommand.toList ≠ []
  directory : c.buildDirectory ≠ ""

theorem faultless_of_valid {c : Config} (valid : c.fault? = none) : c.Faultless := by
  unfold fault? at valid
  split at valid
  · cases valid
  split at valid
  · cases valid
  split at valid
  · cases valid
  split at valid
  · cases valid
  split at valid
  · cases valid
  rename_i template test api differ _ numbers
  split at valid
  · cases valid
  split at valid
  · cases valid
  rename_i command directory
  refine ⟨⟨by simpa using template, by simpa using test, by simpa using api⟩, differ, ?_,
    by simpa using command, by simpa using directory⟩
  intro port set
  have number : (word16? port.toList).isNone ≠ true := Option.filter_eq_none_iff.mp numbers port set
  exact Option.ne_none_iff_exists'.mp (by simpa using number)

theorem valid_of_faultless {c : Config} (h : c.Faultless) : c.fault? = none := by
  obtain ⟨⟨template, test, api⟩, differ, numeral, command, directory⟩ := h
  have port : (c.port.filter fun port => (word16? port.toList).isNone) = none := by
    rw [Option.filter_eq_none_iff]
    intro port set
    obtain ⟨number, read⟩ := numeral port set
    simp [read]
  simp [fault?, template, test, api, differ, port, command, directory]

theorem validate_eq_ok_iff {c : Config} : c.validate = .ok () ↔ c.Faultless := by
  have fault : c.validate = .ok () ↔ c.fault? = none := by
    unfold validate
    cases c.fault? <;> simp
  rw [fault]
  exact ⟨faultless_of_valid, valid_of_faultless⟩

/-- Scripts can be started. -/
theorem launcher_of_valid {c : Config} (valid : c.fault? = none) :
    ∃ launcher, c.launcher? = some launcher := by
  have command : words c.scriptCommand.toList ≠ [] := (faultless_of_valid valid).command
  unfold launcher? Script.Launcher.ofCommand?
  simp [command]

end Config

namespace CommandLine

/-- The configuration before the overrides. -/
def loaded (l : CommandLine) (read : String → Except SystemFault (List UInt8)) :
    Except Config.Fault Config :=
  match l.configFile with
  | some path => Config.ofFile path (read path)
  | none => .ok {}

theorem resolve_eq (l : CommandLine) (read : String → Except SystemFault (List UInt8)) :
    l.resolve read = l.loaded read >>= fun base => base.override l.overrides := by
  unfold resolve loaded
  cases l.configFile <;> rfl

theorem resolve_without_file {l : CommandLine}
    (read : String → Except SystemFault (List UInt8)) (h : l.configFile = none) :
    l.resolve read = ({} : Config).override l.overrides := by
  rw [resolve, h]
  rfl

/-- Whatever the file says, the overrides are laid over it and the outcome is checked. -/
theorem checked_of_resolve {l : CommandLine} {read : String → Except SystemFault (List UInt8)}
    {config : Config} (h : l.resolve read = .ok config) :
    ∃ base, l.loaded read = .ok base ∧ (base.overlay l.overrides).checked = .ok config := by
  rw [resolve_eq] at h
  exact bind_eq_ok_iff.mp h

theorem fault?_of_resolve {l : CommandLine}
    {read : String → Except SystemFault (List UInt8)} {config : Config}
    (h : l.resolve read = .ok config) : config.fault? = none := by
  obtain ⟨base, -, checked⟩ := checked_of_resolve h
  exact Config.fault?_of_checked checked

end CommandLine

/-- There is a plan for every valid configuration. -/
theorem Fixture.Plan.ofConfig_of_valid {config : Config} (valid : config.fault? = none)
    (workingDirectory : String) :
    ∃ p, Plan.ofConfig config workingDirectory = .ok p ∧ p.config = config := by
  obtain ⟨launcher, launched⟩ := Config.launcher_of_valid valid
  exact ⟨_, by rw [Plan.ofConfig, launched], rfl⟩

namespace Config

open Text

/-- Nothing is left to find fault with. -/
structure Settled (c : Config) : Prop where
  valid : c.validate = .ok ()
  normal : c.normalised = c
  named : ∀ name ∈ [c.templateDatabase, c.testDatabase, c.apiDatabase], name ≠ ""
  differ : c.templateDatabase ≠ c.testDatabase
  visible : ∀ text, some text ∈ c.optionalTexts → Visible text
  coverage : c.coverageDirectory ≠ some ""
  /-- No part of a connection string is empty. -/
  told : ∀ database, c.connection.dsn database = "pgsql:dbname=" ++ database ++
    String.join (c.connection.given.map fun (name, text) => ";" ++ name ++ "=" ++ text)
  toldVisible : ∀ setting ∈ c.connection.given, Visible setting.2
  launched : ∃ launcher, c.launcher? = some launcher
  planned : ∀ workingDirectory, ∃ p, Fixture.Plan.ofConfig c workingDirectory = .ok p ∧ p.config = c
  connects : c.port ≠ none → ∀ (vars : Variables) database,
    ∃ target, c.connection.resolve vars database = .ok target

/-- What normalising leaves of the optional texts is visible. -/
theorem visible_of_normal {c : Config} (normal : c.normalised = c) {text : String}
    (h : some text ∈ c.optionalTexts) : Visible text := by
  rw [← normal] at h
  simp only [optionalTexts, normalised, List.mem_cons, List.not_mem_nil, or_false] at h
  rcases h with h | h | h | h | h <;> exact visible_of_unlessBlank h.symm

theorem given_visible {c : Config} (normal : c.normalised = c) {setting : String × String}
    (h : setting ∈ c.connection.given) : Visible setting.2 := by
  obtain ⟨⟨name, value⟩, named, same⟩ := List.mem_filterMap.mp h
  obtain ⟨text, rfl, rfl⟩ := Option.map_eq_some_iff.mp same
  apply visible_of_normal normal
  simp only [Connection.Params.named, connection, List.mem_cons, Prod.mk.injEq, List.not_mem_nil,
    or_false] at named
  simp only [optionalTexts, List.mem_cons]
  rcases named with ⟨-, h⟩ | ⟨-, h⟩ | ⟨-, h⟩ | ⟨-, h⟩ <;> simp [h]

theorem settled_of_checked {c config : Config} (h : c.checked = .ok config) : config.Settled := by
  obtain ⟨same, valid⟩ := checked_eq_ok_iff.mp h
  have normal : config.normalised = config := by rw [same, normalised_normalised]
  constructor
  case valid => rw [validate, valid]
  case normal => exact normal
  case named => simpa using (faultless_of_valid valid).named
  case differ => exact (faultless_of_valid valid).differ
  case visible => exact fun text mem => visible_of_normal normal mem
  case coverage =>
    intro empty
    rw [← normal] at empty
    simp [normalised, Option.filter_eq_some_iff] at empty
  case told => exact config.connection.dsn_given
  case toldVisible => exact fun setting mem => given_visible normal mem
  case launched => exact launcher_of_valid valid
  case planned => exact Fixture.Plan.ofConfig_of_valid valid
  case connects =>
    intro configured vars database
    obtain ⟨port, set⟩ := Option.ne_none_iff_exists'.mp configured
    obtain ⟨number, read⟩ := (faultless_of_valid valid).port port set
    exact Connection.Params.resolve_of_port (p := config.connection) set read vars database

/-- Whatever file there is, of whatever format and content, and whatever overrides: what they are
resolved to is settled. -/
theorem resolved_settled {l : CommandLine} {read : String → Except SystemFault (List UInt8)}
    {config : Config} (resolved : l.resolve read = .ok config) : config.Settled := by
  obtain ⟨base, -, checked⟩ := CommandLine.checked_of_resolve resolved
  exact settled_of_checked checked

/-- The file gives a port as a number and a host of blanks, and an override clears the user. -/
theorem resolved_settled_yaml :
    let text : String := "DB_HOST: \" \"\nDB_PORT: 5433\nDB_USER: osm\n"
    let l : CommandLine :=
      { log := { style := .text, threshold := .info }
        configFile := some "harness.yaml"
        overrides := { user := some "", templateDatabase := some "tmpl" }
        command := .setupTemplate }
    let read : String → Except SystemFault (List UInt8) := fun _ =>
      .ok (text.toList.map fun c => UInt8.ofNat c.toNat)
    let config : Config := { port := some "5433", templateDatabase := "tmpl" }
    l.resolve read = .ok config ∧ config.Settled := by
  intro text l read config
  have resolved : l.resolve read = .ok config := eq_ok_of_toOption (by decide +kernel)
  exact ⟨resolved, resolved_settled resolved⟩

end Config

end Testbed
