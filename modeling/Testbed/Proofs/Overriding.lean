import Testbed.Proofs.Entries
import Testbed.Proofs.Resolution

/-!
# Overrides as an algebra

Overrides give some settings and leave the others alone. They are laid over a configuration setting
by setting, and so are overrides over other overrides. What comes out of laying them over one after
the other is what comes out of laying them over together, because normalising in between changes
nothing that is not normalised again.
-/

namespace Testbed

open Config (Entry Field)

namespace Overrides

def given? (o : Overrides) : Field → Option Entry
  | .buildDirectory => o.buildDirectory.map .buildDirectory
  | .host => o.host.map fun value => .host (some value)
  | .port => o.port.map fun value => .port (some value)
  | .user => o.user.map fun value => .user (some value)
  | .password => o.password.map fun value => .password (some value)
  | .templateDatabase => o.templateDatabase.map .templateDatabase
  | .testDatabase => o.testDatabase.map .testDatabase
  | .apiDatabase => o.apiDatabase.map .apiDatabase
  | .serverModulePath => o.serverModulePath.map fun value => .serverModulePath (some value)
  | .removeTemplate => o.removeTemplate.map .removeTemplate
  | .keepTestDatabase => o.keepTestDatabase.map .keepTestDatabase
  | .coverageDirectory => o.coverageDirectory.map fun value => .coverageDirectory (some value)
  | .scriptCommand => o.scriptCommand.map .scriptCommand
  | .scriptExtension => o.scriptExtension.map .scriptExtension

def onto (later earlier : Overrides) : Overrides where
  buildDirectory := later.buildDirectory <|> earlier.buildDirectory
  host := later.host <|> earlier.host
  port := later.port <|> earlier.port
  user := later.user <|> earlier.user
  password := later.password <|> earlier.password
  templateDatabase := later.templateDatabase <|> earlier.templateDatabase
  testDatabase := later.testDatabase <|> earlier.testDatabase
  apiDatabase := later.apiDatabase <|> earlier.apiDatabase
  serverModulePath := later.serverModulePath <|> earlier.serverModulePath
  removeTemplate := later.removeTemplate <|> earlier.removeTemplate
  keepTestDatabase := later.keepTestDatabase <|> earlier.keepTestDatabase
  coverageDirectory := later.coverageDirectory <|> earlier.coverageDirectory
  scriptCommand := later.scriptCommand <|> earlier.scriptCommand
  scriptExtension := later.scriptExtension <|> earlier.scriptExtension

theorem given?_onto (later earlier : Overrides) (f : Field) :
    (later.onto earlier).given? f = (later.given? f <|> earlier.given? f) := by
  cases f <;> simp [given?, onto, Option.map_or]

theorem given?_none (f : Field) : ({} : Overrides).given? f = none := by
  cases f <;> rfl

end Overrides

namespace Config

variable {c c' : Config} {o : Overrides}

/-- A configuration is known by its settings. -/
theorem ext_entry (same : ∀ f, c.entry f = c'.entry f) : c = c' := by
  have all : ∀ f ∈ Field.all, c.entry f = c'.entry f := fun f _ => same f
  cases c
  cases c'
  simp only [Field.all, List.forall_mem_cons, entry, Entry.buildDirectory.injEq, Entry.host.injEq,
    Entry.port.injEq, Entry.user.injEq, Entry.password.injEq, Entry.templateDatabase.injEq,
    Entry.testDatabase.injEq, Entry.apiDatabase.injEq, Entry.serverModulePath.injEq,
    Entry.removeTemplate.injEq, Entry.keepTestDatabase.injEq, Entry.coverageDirectory.injEq,
    Entry.scriptCommand.injEq, Entry.scriptExtension.injEq] at all
  simp [all]

theorem entry_overlay_getD (c : Config) (o : Overrides) (f : Field) :
    (c.overlay o).entry f = (o.given? f).getD (c.entry f) := by
  have kept {α : Type} (make : α → Entry) (given : Option α) (old : α) :
      make (given.getD old) = (given.map make).getD (make old) := by
    cases given <;> rfl
  have optional (make : Option String → Entry) (given old : Option String) :
      make (given <|> old) = (given.map fun value => make (some value)).getD (make old) := by
    cases given <;> rfl
  cases f with
  | host | port | user | password | serverModulePath | coverageDirectory =>
    exact optional _ _ _
  | _ => exact kept _ _ _

/-- Overrides that are laid over one after the other are laid over together. -/
theorem overlay_overlay (c : Config) (first second : Overrides) :
    (c.overlay first).overlay second = c.overlay (second.onto first) := by
  apply ext_entry
  intro f
  rw [entry_overlay_getD, entry_overlay_getD, entry_overlay_getD, Overrides.given?_onto]
  cases second.given? f <;> rfl

/-- What is laid over is normalised as well, so the rest may be normalised before. -/
theorem normalised_overlay_normalised (c : Config) (o : Overrides) :
    (c.normalised.overlay o).normalised = (c.overlay o).normalised := by
  apply ext_entry
  intro f
  rw [entry_normalised, entry_normalised, entry_overlay_getD, entry_overlay_getD]
  cases o.given? f with
  | none => rw [Option.getD_none, Option.getD_none, entry_normalised, Entry.normalised_normalised]
  | some e => rfl

theorem overlay_none (c : Config) : c.overlay {} = c := by
  apply ext_entry
  intro f
  rw [entry_overlay_getD, Overrides.given?_none, Option.getD_none]

theorem override_normalised (c : Config) (o : Overrides) :
    c.normalised.override o = c.override o := by
  unfold override checked
  rw [normalised_overlay_normalised]

theorem checked_eq_validate (c : Config) :
    c.checked = c.normalised.validate.map fun _ => c.normalised := by
  unfold checked validate
  cases c.normalised.fault? <;> rfl

/-- A configuration that was checked passes every check again. -/
theorem override_none_of_checked {base : Config} (h : base.checked = .ok c) :
    c.override {} = .ok c := by
  obtain ⟨same, valid⟩ := checked_eq_ok_iff.mp h
  have normal : c.normalised = c := by rw [same, normalised_normalised]
  rw [override, overlay_none, checked_eq_ok_iff]
  exact ⟨normal.symm, valid⟩

theorem checked_of_ofText {format : Format} {text : String} (h : ofText format text = .ok c) :
    ∃ base : Config, base.checked = .ok c := by
  unfold ofText at h
  split at h
  · cases h
  · exact ⟨_, h⟩

theorem override_none_of_loaded {l : CommandLine}
    {read : String → Except SystemFault (List UInt8)} (h : l.loaded read = .ok c) :
    c.override {} = .ok c := by
  unfold CommandLine.loaded at h
  split at h
  · unfold ofFile at h
    split at h
    · cases h
    · split at h
      · cases h
      · obtain ⟨base, checked⟩ := checked_of_ofText h
        exact override_none_of_checked checked
  · obtain rfl := Except.ok.inj h
    exact override_none_of_checked (eq_ok_of_toOption (by decide +kernel) : checked {} = .ok {})

/-- Each setting is the one that the overrides give, or else the one of the configuration, and is
unset if it is optional and blank. -/
def Laid (c : Config) (o : Overrides) (laid : Config) : Prop :=
  ∀ f, laid.entry f = ((o.given? f).getD (c.entry f)).normalised

theorem laid_iff {laid : Config} : c.Laid o laid ↔ laid = (c.overlay o).normalised := by
  have setting (f : Field) :
      (c.overlay o).normalised.entry f = ((o.given? f).getD (c.entry f)).normalised := by
    rw [entry_normalised, entry_overlay_getD]
  constructor
  · intro laid
    apply ext_entry
    intro f
    rw [setting]
    exact laid f
  · rintro rfl
    exact setting

/-- Whether overrides are accepted depends on what they are laid to, and so does the complaint. -/
theorem override_of_laid {laid : Config} (h : c.Laid o laid) :
    (∀ config, c.override o = .ok config ↔ laid.validate = .ok () ∧ config = laid) ∧
      ∀ fault, c.override o = .error fault ↔ laid.validate = .error fault := by
  obtain rfl := laid_iff.mp h
  rw [override, checked_eq_validate]
  cases (c.overlay o).normalised.validate with
  | error found => simp [Except.map]
  | ok => simp [Except.map, eq_comm]

/-- A setting that is overridden by something blank is unset, whatever it was. -/
theorem unset_of_laid {laid : Config} (h : c.Laid o laid) :
    (∀ setting ∈ [(o.host, laid.host), (o.port, laid.port), (o.user, laid.user),
        (o.password, laid.password), (o.serverModulePath, laid.serverModulePath)],
      ∀ text, setting.1 = some text → Text.onlyBlanks text.toList = true → setting.2 = none) ∧
    (o.coverageDirectory = some "" → laid.coverageDirectory = none) := by
  have unset {given old : Option String} {text : String} (blank : given = some text)
      (blanks : Text.onlyBlanks text.toList = true) : unlessBlank (given <|> old) = none := by
    simp [blank, unlessBlank, blanks]
  obtain rfl := laid_iff.mp h
  constructor
  · simp only [List.forall_mem_cons, List.not_mem_nil, false_imp_iff, implies_true, and_true]
    exact ⟨fun _ => unset, fun _ => unset, fun _ => unset, fun _ => unset, fun _ => unset⟩
  · intro empty
    simp [normalised, overlay, empty]

/-- Overrides are laid over a configuration setting by setting, and what comes out is checked. They
clear what they give as blank, and turn off what they give as false. No overrides change nothing in
a configuration that was loaded, and overrides one after the other act as the later ones over the
earlier ones. -/
theorem override_algebra :
    (∀ (c : Config) (o : Overrides), ∃ laid, c.Laid o laid ∧
      (∀ config, c.override o = .ok config ↔ laid.validate = .ok () ∧ config = laid) ∧
      ∀ fault, c.override o = .error fault ↔ laid.validate = .error fault) ∧
    (∀ (c : Config) (o : Overrides) (config : Config), c.override o = .ok config →
      (∀ setting ∈ [(o.host, config.host), (o.port, config.port), (o.user, config.user),
          (o.password, config.password), (o.serverModulePath, config.serverModulePath)],
        ∀ text, setting.1 = some text → Text.onlyBlanks text.toList = true → setting.2 = none) ∧
      (o.coverageDirectory = some "" → config.coverageDirectory = none) ∧
      (o.removeTemplate = some false → config.removeTemplate = false) ∧
      (o.keepTestDatabase = some false → config.keepTestDatabase = false)) ∧
    (∀ (l : CommandLine) (read : String → Except SystemFault (List UInt8)) (c : Config),
      l.loaded read = .ok c → c.override {} = .ok c) ∧
    (∀ format text (c : Config), ofText format text = .ok c → c.override {} = .ok c) ∧
    ∀ (c c' : Config) (first second : Overrides), c.override first = .ok c' →
      (∀ f, (second.onto first).given? f = (second.given? f <|> first.given? f)) ∧
      c'.override second = c.override (second.onto first) := by
  refine ⟨?_, ?_, fun l read c => override_none_of_loaded, ?_, ?_⟩
  · intro c o
    have laid : c.Laid o (c.overlay o).normalised := laid_iff.mpr rfl
    exact ⟨_, laid, override_of_laid laid⟩
  · intro c o config accepted
    obtain ⟨rfl, -⟩ := checked_eq_ok_iff.mp accepted
    obtain ⟨texts, coverage⟩ := unset_of_laid (c := c) (o := o) (laid_iff.mpr rfl)
    refine ⟨texts, coverage, fun off => ?_, fun off => ?_⟩ <;> simp [normalised, overlay, off]
  · intro format text c read
    obtain ⟨base, checked⟩ := checked_of_ofText read
    exact override_none_of_checked checked
  · intro c c' first second accepted
    obtain ⟨rfl, -⟩ := checked_eq_ok_iff.mp accepted
    refine ⟨second.given?_onto first, ?_⟩
    rw [override_normalised, override, override, overlay_overlay]

/-- The file and the first overrides are each in order, and so are the second ones alone. Together
they name one database twice. -/
theorem override_algebra_clash :
    let text := "\x7b\"DB_HOST\": \"db\", \"KEEP_TEST_DB\": true\x7d"
    let c : Config := { host := some "db", keepTestDatabase := true }
    let first : Overrides :=
      { host := some " ", testDatabase := some "x", keepTestDatabase := some false }
    let second : Overrides := { templateDatabase := some "x" }
    let c' : Config := { testDatabase := "x" }
    ofText .json text = .ok c ∧ c.override {} = .ok c ∧ c.override first = .ok c' ∧
      c'.override second = c.override (second.onto first) ∧
      c'.override second = .error (.sameName "x") := by
  intro text c first second c'
  obtain ⟨-, -, -, loaded, composed⟩ := override_algebra
  have read : ofText .json text = .ok c := eq_ok_of_toOption (by decide +kernel)
  have accepted : c.override first = .ok c' := eq_ok_of_toOption (by decide +kernel)
  exact ⟨read, loaded .json text c read, accepted, (composed c c' first second accepted).2, rfl⟩

end Config

end Testbed
