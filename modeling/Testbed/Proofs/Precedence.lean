import Testbed.Proofs.Entries
import Testbed.Proofs.Line
import Testbed.Proofs.Resolution

/-!
# Where a setting comes from

A setting has four sources: options behind the command, options in front of it, variables, and the
configuration file. The first of them that gives a value decides, and a default stands behind them.
It does not matter on which side of the command an option is written, unless its value is a word
that looks like an option: such a word can only be a value behind commands that pass words on.
-/

namespace Testbed

open CommandLine

def Overrides.optionalTexts (o : Overrides) : List (Option String) :=
  [o.host, o.port, o.user, o.password, o.serverModulePath]

namespace CommandLine

/-! ## Which source decides -/

namespace Line

def Omits (line : Line) (o : OptionName) : Prop :=
  ∀ m ∈ line.before ++ line.after, m.option ≠ o

/-- Options behind the command come first, then those in front of it, then variables. -/
structure Decides (line : Line) (environment : Variables) (g : Given) : Prop where
  behind : ∀ m ∈ line.after, ∃ value, m.option.kind.read m.text = .ok value ∧
    g m.option = some value
  front : ∀ m ∈ line.before, (∀ n ∈ line.after, n.option ≠ m.option) →
    ∃ value, m.option.kind.read m.text = .ok value ∧ g m.option = some value
  ambient : ∀ o ∈ line.verb.scope.options, line.Omits o →
    ∀ text, variableText environment o = some text →
      ∃ value, o.kind.read text = .ok value ∧ g o = some value
  nothing : ∀ o, line.Omits o → variableText environment o = none → g o = none

end Line

section Deciding

variable {environment : Variables} {line : Line} {ms : List Mention}

/-- An option that is mentioned once has the value of that mention. -/
theorem valuesOf_mem {m : Mention} (distinct : (ms.map Mention.option).Nodup) (mem : m ∈ ms)
    {value : m.option.Value} (read : m.option.kind.read m.text = .ok value) :
    valuesOf ms m.option = some value := by
  induction ms with
  | nil => cases mem
  | cons n ms ih =>
    obtain ⟨new, others⟩ := List.nodup_cons.mp (List.map_cons ▸ distinct)
    rcases List.mem_cons.mp mem with rfl | mem
    · exact valuesOf_cons_same read
    · have differs : n.option ≠ m.option := fun same =>
        new (same ▸ List.mem_map_of_mem (f := Mention.option) mem)
      rw [valuesOf_cons_other differs]
      exact ih others mem

theorem given_behind {o : OptionName} {value : o.Value} (h : valuesOf line.after o = some value) :
    line.given environment o = some value := by
  simp [Line.given, Given.orElse, h]

theorem given_front {o : OptionName} {value : o.Value} (absent : valuesOf line.after o = none)
    (h : valuesOf line.before o = some value) : line.given environment o = some value := by
  simp [Line.given, Given.orElse, absent, h]

theorem given_omitted {o : OptionName} (h : line.Omits o) :
    line.given environment o = standIns environment line.verb.scope.options o := by
  have front : valuesOf line.before o = none :=
    valuesOf_unmentioned fun m mem => h m (List.mem_append_left _ mem)
  have behind : valuesOf line.after o = none :=
    valuesOf_unmentioned fun m mem => h m (List.mem_append_right _ mem)
  simp [Line.given, Given.orElse, front, behind]

theorem decides_given (sound : line.Sound environment) :
    line.Decides environment (line.given environment) := by
  constructor
  case behind =>
    intro m mem
    obtain ⟨value, read⟩ := sound.after.readable m mem
    exact ⟨value, read, given_behind (valuesOf_mem sound.after.distinct mem read)⟩
  case front =>
    intro m mem absent
    obtain ⟨value, read⟩ := sound.before.readable m mem
    exact ⟨value, read, given_front (valuesOf_unmentioned absent)
      (valuesOf_mem sound.before.distinct mem read)⟩
  case ambient =>
    intro o option omits text stands
    have behind : valuesOf line.after o = none :=
      valuesOf_unmentioned fun m mem => omits m (List.mem_append_right _ mem)
    obtain ⟨value, read⟩ := sound.after.ambient o option behind text stands
    refine ⟨value, read, ?_⟩
    rw [given_omitted omits, standIns, if_pos option, variableValue, stands, Option.bind_some, read]
    rfl
  case nothing =>
    intro o omits absent
    rw [given_omitted omits]
    simp [standIns, variableValue, absent]

end Deciding

/-! ## On which side of the command -/

section Sides

variable {environment : Variables} {s s' : Scope} {m : Mention} {xs ys : List Mention}

theorem valuesOf_cons_unmentioned (h : ∀ n ∈ xs, n.option ≠ m.option) :
    valuesOf (m :: xs) m.option = m.valueOf m.option := by
  have absent : valuesOf xs m.option = none := valuesOf_unmentioned h
  unfold valuesOf at *
  rw [List.findSome?_cons, absent]
  cases m.valueOf m.option <;> rfl

theorem valuesOf_cons_ne_none (h : m.Readable) : valuesOf (m :: xs) m.option ≠ none := by
  obtain ⟨value, read⟩ := h
  simp [valuesOf_cons_same read]

/-- An option that is mentioned once can be taken in on another side, if there is such an option. -/
theorem Sound.move (option : m.option ∈ s'.options)
    (once : ∀ n ∈ xs ++ ys, n.option ≠ m.option) (here : Sound environment s (m :: xs))
    (there : Sound environment s' ys) :
    Sound environment s xs ∧ Sound environment s' (m :: ys) := by
  obtain ⟨-, distinct⟩ := List.nodup_cons.mp (List.map_cons ▸ here.distinct)
  obtain ⟨readable, others⟩ := List.forall_mem_cons.mp here.readable
  have absent : valuesOf ys m.option = none :=
    valuesOf_unmentioned fun n mem => once n (List.mem_append_right _ mem)
  refine ⟨⟨distinct, others, ?_⟩, ?_, List.forall_mem_cons.mpr ⟨readable, there.readable⟩, ?_⟩
  · intro o mem free
    by_cases same : m.option = o
    · subst same
      exact there.ambient m.option option absent
    · exact here.ambient o mem (by rwa [valuesOf_cons_other same])
  · rw [List.map_cons, List.nodup_cons]
    refine ⟨fun mem => ?_, there.distinct⟩
    obtain ⟨n, mem, same⟩ := List.mem_map.mp mem
    exact once n (List.mem_append_right _ mem) same
  · intro o mem free
    by_cases same : m.option = o
    · subst same
      exact absurd free (valuesOf_cons_ne_none readable)
    · exact there.ambient o mem (by rwa [valuesOf_cons_other same] at free)

theorem Sound.perm (perm : xs.Perm ys) (same : valuesOf xs = valuesOf ys)
    (h : Sound environment s xs) : Sound environment s ys := by
  constructor
  case distinct => exact (perm.map Mention.option).nodup_iff.mp h.distinct
  case readable => exact fun n mem => h.readable n (perm.mem_iff.mpr mem)
  case ambient => exact same ▸ h.ambient

/-- Of an option that is mentioned once it does not matter where. -/
theorem sound_middle (once : ∀ n ∈ xs ++ ys, n.option ≠ m.option) :
    Sound environment s (xs ++ m :: ys) ↔ Sound environment s (m :: (xs ++ ys)) :=
  have same := valuesOf_middle once
  ⟨.perm List.perm_middle same, .perm List.perm_middle.symm same.symm⟩

/-- Either side of the command gives the same values. -/
theorem given_middle {zs : List Mention} {v : Verb} {r : Rest}
    (once : ∀ n ∈ xs ++ ys ++ zs, n.option ≠ m.option) :
    Line.given ⟨xs ++ m :: ys, v, zs, r⟩ environment =
      Line.given ⟨xs ++ ys, v, m :: zs, r⟩ environment := by
  have front : ∀ n ∈ xs ++ ys, n.option ≠ m.option := fun n mem =>
    once n (List.mem_append_left _ mem)
  have back : ∀ n ∈ zs, n.option ≠ m.option := fun n mem => once n (List.mem_append_right _ mem)
  funext o
  simp only [Line.given, valuesOf_middle front]
  by_cases same : m.option = o
  · subst same
    simp only [Given.orElse, valuesOf_cons_unmentioned front, valuesOf_cons_unmentioned back,
      valuesOf_unmentioned front, valuesOf_unmentioned back]
  · simp only [Given.orElse, valuesOf_cons_other same]

/-- The value of the mention is a word of its own that looks like an option. -/
def Mention.Hyphened (m : Mention) : Prop :=
  ∃ word, m.manner = .apart word ∧ CommandLine.Hyphened word

theorem Mention.Fits.everywhere {v : Verb} (fits : m.Fits outerScope) : m.Fits v.scope := by
  obtain ⟨option, manner⟩ := fits
  refine ⟨List.mem_append_right _ option, ?_⟩
  cases written : m.manner with
  | alone | joined => simpa [written] using manner
  | apart word =>
    simp only [written] at manner
    exact ⟨manner.1, Scope.piece_eq_plain (Scope.not_hyphened manner.2)⟩

theorem Mention.Fits.outer {v : Verb} (fits : m.Fits v.scope)
    (option : m.option ∈ OptionName.everywhere) (plain : ¬ m.Hyphened) : m.Fits outerScope := by
  obtain ⟨-, manner⟩ := fits
  refine ⟨option, ?_⟩
  cases written : m.manner with
  | alone | joined => simpa [written] using manner
  | apart word =>
    simp only [written] at manner
    exact ⟨manner.1, Scope.piece_eq_plain fun looks => plain ⟨word, written, looks⟩⟩

/-- An option that fits on both sides of the command and is mentioned once can be moved across. -/
theorem parse_move {zs : List Mention} {v : Verb} {r : Rest} {l : CommandLine}
    (fits : m.Fits outerScope) (front : ∀ n ∈ xs ++ ys, n.Fits outerScope)
    (back : ∀ n ∈ zs, n.Fits v.scope) (restFits : r.Fits v.scope)
    (once : ∀ n ∈ xs ++ ys ++ zs, n.option ≠ m.option) :
    parse environment (Line.words ⟨xs ++ m :: ys, v, zs, r⟩) = .ok l ↔
      parse environment (Line.words ⟨xs ++ ys, v, m :: zs, r⟩) = .ok l := by
  have frontOnce : ∀ n ∈ xs ++ ys, n.option ≠ m.option := fun n mem =>
    once n (List.mem_append_left _ mem)
  have backOnce : ∀ n ∈ zs ++ (xs ++ ys), n.option ≠ m.option := fun n mem =>
    once n (List.mem_append.mpr (List.mem_append.mp mem).symm)
  have frontFits : Line.Fits ⟨xs ++ m :: ys, v, zs, r⟩ := by
    refine ⟨fun n mem => ?_, back, restFits⟩
    rcases List.mem_cons.mp (List.perm_middle.mem_iff.mp mem) with rfl | mem
    · exact fits
    · exact front n mem
  have backFits : Line.Fits ⟨xs ++ ys, v, m :: zs, r⟩ :=
    ⟨front, List.forall_mem_cons.mpr ⟨fits.everywhere, back⟩, restFits⟩
  have sound : Line.Sound ⟨xs ++ m :: ys, v, zs, r⟩ environment ↔
      Line.Sound ⟨xs ++ ys, v, m :: zs, r⟩ environment := by
    constructor
    · rintro ⟨outer, inner⟩
      obtain ⟨left, moved⟩ :=
        Sound.move fits.everywhere.1 once ((sound_middle frontOnce).mp outer) inner
      exact ⟨left, moved⟩
    · rintro ⟨outer, inner⟩
      obtain ⟨left, moved⟩ := Sound.move fits.1 backOnce inner outer
      exact ⟨(sound_middle frontOnce).mpr moved, left⟩
  rw [parse_eq_ok_iff frontFits, parse_eq_ok_iff backFits, sound, given_middle once]

end Sides

/-! ## Which value a setting has -/

section Effects

variable {l : CommandLine} {read : String → Except SystemFault (List UInt8)} {config : Config}

def Finds (l : CommandLine) (read : String → Except SystemFault (List UInt8))
    (entries : List Config.Entry) : Prop :=
  match l.configFile with
  | none => entries = []
  | some path => ∃ octets text, read path = .ok octets ∧ Text.decode? octets = some text ∧
    Config.Holds ((Config.Format.ofPath path).document (String.ofList text)) entries

/-- What a setting is: an option or a variable gives it, else the file, else there is a default. An
optional setting with nothing but blanks is unset. -/
def effective (g : Given) (entries : List Config.Entry) (f : Config.Field) : Config.Entry :=
  (((g (.setting f)).map (Config.Entry.ofOption f) <|> entries.find? (·.field = f)).getD
    (({} : Config).entry f)).normalised

/-- What is loaded are the entries of the file over the defaults. -/
theorem exists_finds {base : Config} (h : l.loaded read = .ok base) :
    ∃ entries, l.Finds read entries ∧ (entries.map Config.Entry.field).Nodup ∧
      ∀ f, (base.entry f).normalised =
        ((entries.find? (·.field = f)).getD (({} : Config).entry f)).normalised := by
  unfold loaded at h
  unfold Finds
  cases file : l.configFile with
  | none =>
    simp only [file] at h
    obtain rfl := Except.ok.inj h
    exact ⟨[], rfl, .nil, fun f => rfl⟩
  | some path =>
    simp only [file] at h
    unfold Config.ofFile at h
    split at h
    · cases h
    rename_i octets content
    split at h
    · cases h
    rename_i text decoded
    unfold Config.ofText at h
    split at h
    · cases h
    rename_i c said
    obtain ⟨entries, holds, rfl, distinct⟩ := Config.holds_of_ofDocument said
    obtain ⟨rfl, -⟩ := Config.checked_eq_ok_iff.mp h
    refine ⟨entries, ⟨octets, text, content, decoded, holds⟩, distinct, fun f => ?_⟩
    rw [Config.entry_normalised, Config.Entry.normalised_normalised,
      Config.entry_foldl_assign distinct]

/-- Where a configuration is resolved, every setting has its first source. -/
theorem exists_effective {g : Given} {command : Command}
    (resolved : (ofGiven g command).resolve read = .ok config) :
    ∃ entries, (ofGiven g command).Finds read entries ∧ (entries.map Config.Entry.field).Nodup ∧
      ∀ f, config.entry f = effective g entries f := by
  obtain ⟨base, loaded, checked⟩ := checked_of_resolve resolved
  obtain ⟨rfl, -⟩ := Config.checked_eq_ok_iff.mp checked
  obtain ⟨entries, finds, distinct, found⟩ := exists_finds loaded
  refine ⟨entries, finds, distinct, fun f => ?_⟩
  have laid : (base.overlay (overridesOf g)).entry f =
      ((g (.setting f)).map (Config.Entry.ofOption f)).getD (base.entry f) :=
    Config.entry_overlay g
  rw [Config.entry_normalised, effective]
  refine (congrArg Config.Entry.normalised laid).trans ?_
  cases g (.setting f) with
  | none => exact found f
  | some value => rfl

/-- An empty text is a text, and unsets the setting. -/
theorem cleared_of_empty (resolved : l.resolve read = .ok config) {i : Nat}
    (h : l.overrides.optionalTexts[i]? = some (some "")) :
    config.optionalTexts[i]? = some none := by
  obtain ⟨base, -, checked⟩ := checked_of_resolve resolved
  obtain ⟨rfl, -⟩ := Config.checked_eq_ok_iff.mp checked
  have unset : Config.unlessBlank (some "") = none := by decide +kernel
  match i with
  | 0 | 1 | 2 | 3 | 4 =>
    simp only [Overrides.optionalTexts, List.getElem?_cons_zero, List.getElem?_cons_succ,
      Option.some.injEq] at h
    simp [Config.optionalTexts, Config.normalised, Config.overlay, h, unset]
  | i + 5 => simp [Overrides.optionalTexts] at h

end Effects

/-! ## Precedence -/

/-- What a command line does to the configuration, option by option, and that it does the same with
an option written on the other side of the command. -/
structure Line.Explains (line : Line) (environment : Variables)
    (read : String → Except SystemFault (List UInt8)) (l : CommandLine) (config : Config) :
    Prop where
  settings : ∃ g entries, l = ofGiven g l.command ∧ line.Decides environment g ∧
    l.Finds read entries ∧ (entries.map Config.Entry.field).Nodup ∧
    ∀ f, config.entry f = effective g entries f
  cleared : ∀ i : Nat, l.overrides.optionalTexts[i]? = some (some "") →
    config.optionalTexts[i]? = some none
  behind : ∀ m xs ys, line.before = xs ++ m :: ys →
    (∀ n ∈ xs ++ ys ++ line.after, n.option ≠ m.option) →
    parse environment (Line.words ⟨xs ++ ys, line.verb, m :: line.after, line.rest⟩) = .ok l
  front : ∀ m xs ys zs, line.before = xs ++ ys → line.after = m :: zs →
    m.option ∈ OptionName.everywhere → ¬ m.Hyphened →
    (∀ n ∈ xs ++ ys ++ zs, n.option ≠ m.option) →
    parse environment (Line.words ⟨xs ++ m :: ys, line.verb, zs, line.rest⟩) = .ok l

/-- A command line that is understood is a line, and a line says where every setting comes from. -/
theorem precedence {environment : Variables} {arguments : List String} {l : CommandLine}
    (parsed : parse environment arguments = .ok l)
    {read : String → Except SystemFault (List UInt8)} {config : Config}
    (resolved : l.resolve read = .ok config) :
    (∃ line : Line, line.Fits ∧ line.words = arguments) ∧
      ∀ line : Line, line.Fits → line.words = arguments →
        line.Explains environment read l config := by
  refine ⟨exists_line parsed, ?_⟩
  rintro line fits rfl
  obtain ⟨sound, passed, -, command, -, rfl⟩ := (parse_eq_ok_iff fits).mp parsed
  obtain ⟨before, v, after, rest⟩ := line
  constructor
  case settings =>
    obtain ⟨entries, finds, distinct, found⟩ := exists_effective resolved
    exact ⟨_, entries, rfl, decides_given sound, finds, distinct, found⟩
  case cleared => exact fun i h => cleared_of_empty resolved h
  case behind =>
    rintro m xs ys rfl once
    have mentions : ∀ n, n ∈ xs ++ m :: ys ↔ n ∈ m :: (xs ++ ys) := fun n =>
      List.perm_middle.mem_iff
    have all := fun n mem => fits.before n ((mentions n).mpr mem)
    obtain ⟨here, others⟩ := List.forall_mem_cons.mp all
    exact (parse_move here others fits.after fits.rest once).mp parsed
  case front =>
    rintro m xs ys zs rfl rfl option plain once
    obtain ⟨here, others⟩ := List.forall_mem_cons.mp fits.after
    exact (parse_move (here.outer option plain) fits.before others fits.rest once).mpr parsed

/-- The variable clears the user, the option behind the command wins over the one in front of it,
and the file gives the port and what an option gives too. -/
theorem precedence_yaml :
    let environment : Variables := fun name =>
      if name = "GEOFIXTURE_DB_USER" then some "" else none
    let arguments := ["--db-host", "front", "--json", "--config=harness.yaml", "scenario",
      "--db-host=behind", "--keep-test-db", "true"]
    let text : String := "DB_HOST: file\nDB_PORT: 5433\nDB_USER: osm\n"
    let read : String → Except SystemFault (List UInt8) := fun _ =>
      .ok (text.toList.map fun c => UInt8.ofNat c.toNat)
    let l : CommandLine :=
      { log := { style := .json, threshold := .info }
        configFile := some "harness.yaml"
        overrides := { host := some "behind", user := some "", keepTestDatabase := some true }
        command := .scenario .test "" ["true"] }
    let config : Config := { host := some "behind", port := some "5433", keepTestDatabase := true }
    parse environment arguments = .ok l ∧ l.resolve read = .ok config ∧
      (∃ line : Line, line.Fits ∧ line.words = arguments) ∧
      ∀ line : Line, line.Fits → line.words = arguments →
        line.Explains environment read l config := by
  intro environment arguments text read l config
  have parsed : parse environment arguments = .ok l := eq_ok_of_toOption (by decide +kernel)
  have resolved : l.resolve read = .ok config := eq_ok_of_toOption (by decide +kernel)
  exact ⟨parsed, resolved, precedence parsed resolved⟩

/-- A host that looks like an option is understood behind a command that passes words on, but not in
front of it. -/
theorem hyphened_host_behind_only :
    let host : Mention := ⟨.setting .host, .apart "-x"⟩
    let behind : Line := ⟨[], .scenario, [host], .words "true" []⟩
    let front : Line := ⟨[host], .scenario, [], .words "true" []⟩
    let l : CommandLine :=
      { log := { style := .text, threshold := .info }
        configFile := none
        overrides := { host := some "-x" }
        command := .scenario .test "" ["true"] }
    behind.words = ["scenario", "--db-host", "-x", "true"] ∧
      front.words = ["--db-host", "-x", "scenario", "true"] ∧
      parse (fun _ => none) behind.words = .ok l ∧
      l.resolve (fun _ => .error .notUtf8) = .ok { host := some "-x" } ∧
      parse (fun _ => none) front.words = .error (.unexpected "-x") := by
  intro host behind front l
  have parsed : parse (fun _ => none) behind.words = .ok l := eq_ok_of_toOption (by decide +kernel)
  have resolved : l.resolve (fun _ => .error .notUtf8) = .ok { host := some "-x" } :=
    eq_ok_of_toOption (by decide +kernel)
  have words : front.words = ["--db-host", "-x", "scenario", "true"] := by decide +kernel
  have option : outerScope.piece "--db-host" = .option (.setting .host) none := by decide +kernel
  have value : outerScope.piece "-x" = .strange := by decide +kernel
  have refused : outerScope.read {} front.words = .error (.unexpected "-x") := by
    simp only [words, Scope.read, option, value]
    rfl
  refine ⟨by decide +kernel, words, parsed, resolved, ?_⟩
  rw [parse, refused]
  rfl

end CommandLine

end Testbed
