import Testbed.Proofs.JsonConfig

/-!
# Ports

A port is a number of sixteen bits in decimal digits, perhaps with zeros in front and one plus sign
before them. The check of a configuration, the JSON reader and the connection to the server agree
on which texts and which numbers are ports.
-/

namespace Testbed

def IsPort (text : String) (n : Nat) : Prop :=
  ∃ digits : List Char, (text.toList = digits ∨ text.toList = '+' :: digits) ∧ digits ≠ [] ∧
    (∀ c ∈ digits, '0' ≤ c ∧ c ≤ '9') ∧ Nat.ofDigitChars 10 digits 0 = n ∧ n ≤ 65535

namespace Text

theorem isDigit_iff (c : Char) : isDigit c = true ↔ '0' ≤ c ∧ c ≤ '9' := by
  simp [isDigit]

theorem unsigned_cases (s : List Char) : s = unsigned s ∨ s = '+' :: unsigned s := by
  unfold unsigned
  split
  · exact .inr rfl
  · exact .inl rfl

/-- What begins with a digit has no sign in front. -/
theorem unsigned_digits {digits : List Char} (all : ∀ c ∈ digits, isDigit c = true) :
    unsigned digits = digits := by
  unfold unsigned
  split
  · cases all '+' List.mem_cons_self
  · rfl

theorem word16?_eq_some_iff {text : String} {n : Nat} :
    word16? text.toList = some n ↔ IsPort text n := by
  have read (digits : List Char) : (!digits.isEmpty && digits.all isDigit &&
        decide (value digits ≤ 65535)) = true ↔
      digits ≠ [] ∧ (∀ c ∈ digits, '0' ≤ c ∧ c ≤ '9') ∧ Nat.ofDigitChars 10 digits 0 ≤ 65535 := by
    simp [isDigit_iff, value_eq_ofDigitChars, and_assoc]
  unfold word16?
  dsimp only
  constructor
  · intro h
    split at h
    · rename_i numeral
      obtain ⟨nonempty, all, small⟩ := (read _).mp numeral
      obtain rfl := Option.some.inj h
      rw [value_eq_ofDigitChars]
      exact ⟨unsigned text.toList, unsigned_cases _, nonempty, all, rfl, small⟩
    · cases h
  · rintro ⟨digits, same, nonempty, all, rfl, small⟩
    have rest : unsigned text.toList = digits := by
      rcases same with same | same
      · rw [same, unsigned_digits fun c mem => (isDigit_iff c).mpr (all c mem)]
      · rw [same]
        rfl
    rw [rest, if_pos ((read digits).mpr ⟨nonempty, all, small⟩), value_eq_ofDigitChars]

end Text

theorem Text.visible_of_isDigit {text : String} {c : Char} (mem : c ∈ text.toList)
    (digit : isDigit c = true) : Visible text := by
  obtain ⟨low, high⟩ := (isDigit_iff c).mp digit
  have low : 48 ≤ c.toNat := low
  have high : c.toNat ≤ 57 := high
  refine ⟨c, mem, ?_⟩
  simp only [isBlank, Bool.or_eq_false_iff, Bool.and_eq_false_iff, decide_eq_false_iff_not,
    beq_eq_false_iff_ne]
  omega

/-- A numeral has a digit, and that is no blank. -/
theorem IsPort.visible {text : String} {n : Nat} (h : IsPort text n) : Text.Visible text := by
  obtain ⟨digits, same, nonempty, all, -⟩ := h
  obtain ⟨c, rest, rfl⟩ := List.exists_cons_of_ne_nil nonempty
  have mem : c ∈ text.toList := by
    rcases same with same | same <;> simp [same]
  exact Text.visible_of_isDigit mem ((Text.isDigit_iff c).mpr (all c List.mem_cons_self))

theorem visible_toString (n : Nat) : Text.Visible (toString n) := by
  have nonempty : Nat.toDigits 10 n ≠ [] := Nat.toDigits_ne_nil
  obtain ⟨c, rest, same⟩ := List.exists_cons_of_ne_nil nonempty
  have mem : c ∈ Nat.toDigits 10 n := same ▸ List.mem_cons_self
  exact Text.visible_of_isDigit (toList_toString n ▸ mem) (Text.isDigit_of_mem_toDigits mem)

/-- The decimal text of a number is a numeral for it if the number is small enough. -/
theorem isPort_toString {k n : Nat} : IsPort (toString k) n ↔ k = n ∧ k ≤ 65535 := by
  constructor
  · rintro ⟨digits, same, -, -, rfl, small⟩
    rw [toList_toString] at same
    rcases same with rfl | signed
    · rw [Nat.ofDigitChars_ten_toDigits] at *
      exact ⟨rfl, small⟩
    · have sign : '+' ∈ Nat.toDigits 10 k := signed ▸ List.mem_cons_self
      cases Text.isDigit_of_mem_toDigits sign
  · rintro ⟨rfl, small⟩
    refine ⟨Nat.toDigits 10 k, .inl (toList_toString k), Nat.toDigits_ne_nil, ?_,
      Nat.ofDigitChars_ten_toDigits, small⟩
    exact fun c mem => (Text.isDigit_iff c).mp (Text.isDigit_of_mem_toDigits mem)

namespace Connection

variable {p : Params}

theorem portOf_some {text : String} {n : Nat} (h : IsPort text n) :
    portOf (some text) = .ok (some n) := by
  rw [portOf, Text.word16?_eq_some_iff.mpr h]

theorem portOf_error_iff {port : Option String} {e : BadPort} :
    portOf port = .error e ↔ port = some e.text ∧ ∀ n, ¬ IsPort e.text n := by
  cases port with
  | none => exact ⟨nofun, fun h => nomatch h.1⟩
  | some text =>
    rw [portOf]
    constructor
    · intro h
      split at h
      · cases h
      · rename_i unread
        obtain rfl := Except.error.inj h
        refine ⟨rfl, fun n numeral => ?_⟩
        cases unread.symm.trans (Text.word16?_eq_some_iff.mpr numeral)
    · rintro ⟨same, other⟩
      obtain rfl := Option.some.inj same
      split
      · rename_i n read
        exact absurd (Text.word16?_eq_some_iff.mp read) (other n)
      · rfl

/-- The port of a connection is the one that is configured. -/
theorem Params.resolve_port {text : String} {n : Nat} (set : p.port = some text)
    (h : IsPort text n) (vars : Variables) (database : String) :
    ∃ target, p.resolve vars database = .ok target ∧ target.port = some n := by
  have found : portOf (p.port <|> vars.nonEmpty "PGPORT") = .ok (some n) := by
    rw [set]
    exact portOf_some h
  unfold resolve
  rw [found]
  exact ⟨_, rfl, rfl⟩

/-- A connection cannot be described if the port that counts is no numeral. -/
theorem Params.resolve_error_iff (p : Params) (vars : Variables) (database : String) (e : BadPort) :
    p.resolve vars database = .error e ↔ portOf (p.port <|> vars.nonEmpty "PGPORT") = .error e := by
  unfold resolve
  cases portOf (p.port <|> vars.nonEmpty "PGPORT") with
  | error => constructor <;> rintro ⟨rfl⟩ <;> rfl
  | ok => exact ⟨nofun, nofun⟩

end Connection

namespace Config

/-- Everything else being in order, a configuration is valid if its port is a port. -/
theorem validate_port {c : Config} (valid : (c.assign (.port none)).validate = .ok ())
    (text : String) :
    (c.assign (.port (some text))).validate = .ok () ↔ ∃ n, IsPort text n := by
  obtain ⟨named, differ, -, command, directory⟩ := validate_eq_ok_iff.mp valid
  rw [validate_eq_ok_iff]
  constructor
  · intro faultless
    obtain ⟨n, read⟩ := faultless.port text rfl
    exact ⟨n, Text.word16?_eq_some_iff.mp read⟩
  · rintro ⟨n, numeral⟩
    refine ⟨named, differ, ?_, command, directory⟩
    rintro _ ⟨rfl⟩
    exact ⟨n, Text.word16?_eq_some_iff.mpr numeral⟩

/-- A port that is not blank is kept as it is. -/
theorem normalised_port {text : String} (visible : Text.Visible text) :
    (Entry.port (some text)).normalised = .port (some text) := by
  simp [Entry.normalised, unlessBlank, (Text.visible_iff text).mp visible]

theorem checked_port {c base : Config} {text : String} (visible : Text.Visible text)
    (valid : (c.assign (.port none)).checked = .ok base) (config : Config) :
    (c.assign (.port (some text))).checked = .ok config ↔
      (∃ n, IsPort text n) ∧ config = base.assign (.port (some text)) := by
  obtain ⟨rfl, faultless⟩ := checked_eq_ok_iff.mp valid
  have others : (c.normalised.assign (.port none)).validate = .ok () :=
    validate_eq_ok_iff.mpr (faultless_of_valid faultless)
  rw [checked_eq_ok_iff, normalised_assign, normalised_port visible, ← validate_port others text,
    validate_eq_ok_iff]
  constructor
  · rintro ⟨rfl, fault⟩
    exact ⟨faultless_of_valid fault, rfl⟩
  · rintro ⟨faultless, rfl⟩
    exact ⟨rfl, valid_of_faultless faultless⟩

/-! ## Documents with a port -/

/-- A document that gives a port and nothing else is checked like a configuration with it. -/
theorem ofText_port {text port : String} {v : Json.Value}
    (h : Json.Spells text (.object [(Field.port.key, v)]))
    (typed : Field.port.typed? v = some (.port (some port))) :
    ofText .json text = (assign {} (.port (some port))).checked := by
  have taken : takeMembers [] {} [(Field.port.key, v)] = .ok (assign {} (.port (some port))) :=
    takeMembers_cons.mpr ⟨.port, _, rfl, List.not_mem_nil, typed, rfl⟩
  rw [ofText_object h, taken]
  rfl

theorem checked_default : (assign {} (.port none)).checked = .ok {} :=
  eq_ok_of_toOption (by decide +kernel)

theorem checked_toString (n : Nat) (config : Config) :
    (assign {} (.port (some (toString n)))).checked = .ok config ↔
      n ≤ 65535 ∧ config = assign {} (.port (some (toString n))) := by
  rw [checked_port (visible_toString n) checked_default]
  refine and_congr_left fun _ => ?_
  constructor
  · rintro ⟨m, numeral⟩
    exact (isPort_toString.mp numeral).2
  · intro small
    exact ⟨n, isPort_toString.mpr ⟨rfl, small⟩⟩

/-- A document with a number for the port is accepted if the number is small enough. -/
theorem ofText_number {n : Nat} {text : String}
    (h : Json.Spells text (.object [(Field.port.key, .number { whole := n })])) (config : Config) :
    ofText .json text = .ok config ↔
      n ≤ 65535 ∧ config = assign {} (.port (some (toString n))) := by
  have wide : 65535 < Nat.pow 2 64 := by decide
  by_cases small : n < Nat.pow 2 64
  · have typed : Field.port.typed? (.number { whole := n }) = some (.port (some (toString n))) := by
      simp [Field.typed?, Json.Value.port?, Json.Number.natural?, small]
    rw [ofText_port h typed, checked_toString]
  · -- The reader knows such a number only as some number, and no setting takes that.
    have untyped : Field.port.typed? (.number { whole := n }) = none := by
      simp [Field.typed?, Json.Value.port?, Json.Number.natural?, small]
    have other : ¬ Admissible [(Field.port.key, .number { whole := n })] := by
      intro admissible
      have typed := admissible.typed_of_mem List.mem_cons_self
      simp [untyped] at typed
    obtain ⟨problem, wrong⟩ := ofText_of_not_admissible h other
    rw [wrong]
    constructor
    · intro same
      cases same
    · rintro ⟨tiny, -⟩
      omega

theorem dsn_port (port database : String) :
    (assign {} (.port (some port))).connection.dsn database =
      "pgsql:dbname=" ++ database ++ (";port=" ++ port) := by
  rw [Connection.Params.dsn_given]
  simp [Connection.Params.given, Connection.Params.named, connection, assign]

end Config

namespace Json

theorem escape_digit {c : Char} (digit : Text.isDigit c = true) : escape c = [c] := by
  rcases escape_cases c with ⟨d, -, undone, -⟩ | ⟨control, -⟩ | ⟨-, -, -, same⟩
  · unfold unescaped? at undone
    split at undone <;> first
      | obtain rfl := Option.some.inj undone
        cases digit
      | cases undone
  · obtain ⟨low, -⟩ := (Text.isDigit_iff c).mp digit
    have low : 48 ≤ c.toNat := low
    omega
  · exact same

theorem flatMap_escape_digits {s : List Char} (all : ∀ c ∈ s, Text.isDigit c = true) :
    s.flatMap escape = s := by
  induction s with
  | nil => rfl
  | cons c s ih =>
    obtain ⟨digit, others⟩ := List.forall_mem_cons.mp all
    rw [List.flatMap_cons, escape_digit digit, ih others, List.singleton_append]

/-- An object with one member, with a blank behind the colon. -/
theorem layout_single (key : String) (l : Lexeme) :
    Layout [.openObject, .string key, .colon, l, .closeObject]
      (Lexeme.openObject.written ++ ((Lexeme.string key).written ++ (Lexeme.colon.written ++
        ' ' :: (l.written ++ (Lexeme.closeObject.written ++ []))))) := by
  have ends : Ends (Lexeme.closeObject.written ++ []) := by
    rintro _ ⟨rfl⟩
    decide
  have value := Layout.cons l (fun _ => ends) (.cons .closeObject nofun .nil)
  have keyed := Layout.cons (.string key) nofun (.cons .colon nofun value.blank)
  exact .cons .openObject nofun keyed

/-- The document with a port as a number. -/
theorem spells_number (n : Nat) : Spells ("\x7b\"DB_PORT\": " ++ toString n ++ "\x7d")
    (.object [(Config.Field.port.key, .number { whole := n })]) := by
  apply spells_of_layout
  have written : (Lexeme.number { whole := n }).written = Nat.toDigits 10 n := by
    simp [Lexeme.written, Number.written, Number.body, Number.partText, Number.exponentText]
  have layout := layout_single "DB_PORT" (.number { whole := n })
  rw [String.toList_append, String.toList_append, toList_toString, List.append_assoc]
  rw [written] at layout
  exact layout

/-- The document with a port as a text. -/
theorem spells_text (n : Nat) : Spells ("\x7b\"DB_PORT\": \"" ++ toString n ++ "\"\x7d")
    (.object [(Config.Field.port.key, .string (toString n))]) := by
  apply spells_of_layout
  have digits : (Nat.toDigits 10 n).flatMap escape = Nat.toDigits 10 n :=
    flatMap_escape_digits fun _ => Text.isDigit_of_mem_toDigits
  have written : (Lexeme.string (toString n)).written = '"' :: (Nat.toDigits 10 n ++ ['"']) := by
    simp [Lexeme.written, stringText, digits]
  have layout := layout_single "DB_PORT" (.string (toString n))
  rw [String.toList_append, String.toList_append, toList_toString, List.append_assoc]
  simp only [written, List.cons_append, List.append_assoc] at layout
  exact layout

end Json

/-- What the check takes for a port, the connection takes for the same one, and it is the only one.
A JSON document may give it as a number of any size. The number is accepted if it is a port, and
then it is as if its decimal text had been given. Without a configured port the connection fails
if the variable for it is no port either. -/
theorem ports_agree :
    (∀ (c : Config) (text : String), (c.assign (.port none)).validate = .ok () →
      ((c.assign (.port (some text))).validate = .ok () ↔ ∃ n, IsPort text n)) ∧
    (∀ (c base : Config) (text : String), Text.Visible text →
      (c.assign (.port none)).checked = .ok base → ∀ config,
        ((c.assign (.port (some text))).checked = .ok config ↔
          (∃ n, IsPort text n) ∧ config = base.assign (.port (some text)))) ∧
    (∀ (c : Config) (text : String) (n : Nat), c.port = some text → IsPort text n →
      ∀ (vars : Variables) database, ∃ target,
        c.connection.resolve vars database = .ok target ∧ target.port = some n) ∧
    (∀ (n : Nat) (number text : String),
      Json.Spells number (.object [("DB_PORT", .number { whole := n })]) →
      Json.Spells text (.object [("DB_PORT", .string (toString n))]) →
      ((∃ config, Config.ofText .json number = .ok config) ↔ n ≤ 65535) ∧
      ∀ config, Config.ofText .json number = .ok config →
        Config.ofText .json text = .ok config ∧
        (∀ database, config.connection.dsn database =
          "pgsql:dbname=" ++ database ++ (";port=" ++ toString n)) ∧
        ∀ (vars : Variables) database, ∃ target,
          config.connection.resolve vars database = .ok target ∧ target.port = some n) ∧
    (∀ n : Nat,
      Json.Spells ("\x7b\"DB_PORT\": " ++ toString n ++ "\x7d")
        (.object [("DB_PORT", .number { whole := n })]) ∧
      Json.Spells ("\x7b\"DB_PORT\": \"" ++ toString n ++ "\"\x7d")
        (.object [("DB_PORT", .string (toString n))])) ∧
    ∀ (c : Config), c.port = none → ∀ (vars : Variables) database,
      ((∃ e, c.connection.resolve vars database = .error e) ↔
        ∃ text, vars "PGPORT" = some text ∧ text ≠ "" ∧ ∀ n, ¬ IsPort text n) := by
  refine ⟨fun c text valid => Config.validate_port valid text,
    fun c base text visible => Config.checked_port visible,
    fun c text n set numeral => Connection.Params.resolve_port (p := c.connection) set numeral,
    ?_, fun n => ⟨Json.spells_number n, Json.spells_text n⟩, ?_⟩
  · intro n number text spellsNumber spellsText
    have typed : Config.Field.port.typed? (.string (toString n)) =
        some (.port (some (toString n))) := rfl
    refine ⟨?_, fun config read => ?_⟩
    · constructor
      · rintro ⟨config, read⟩
        exact ((Config.ofText_number spellsNumber config).mp read).1
      · intro small
        exact ⟨_, (Config.ofText_number spellsNumber _).mpr ⟨small, rfl⟩⟩
    · obtain ⟨small, rfl⟩ := (Config.ofText_number spellsNumber config).mp read
      refine ⟨?_, Config.dsn_port (toString n), ?_⟩
      · rw [Config.ofText_port spellsText typed, Config.checked_toString]
        exact ⟨small, rfl⟩
      · exact Connection.Params.resolve_port rfl (isPort_toString.mpr ⟨rfl, small⟩)
  · intro c unset vars database
    simp only [Connection.Params.resolve_error_iff, Connection.portOf_error_iff]
    have source : (c.connection.port <|> vars.nonEmpty "PGPORT") = vars.nonEmpty "PGPORT" := by
      rw [Config.connection, unset]
      rfl
    rw [source]
    constructor
    · rintro ⟨e, found, other⟩
      obtain ⟨set, nonempty⟩ := Option.filter_eq_some_iff.mp found
      exact ⟨e.text, set, by simpa using nonempty, other⟩
    · rintro ⟨text, set, nonempty, other⟩
      exact ⟨⟨text⟩, by simp [Variables.nonEmpty, set, nonempty], other⟩

/-- A sign and zeros are no obstacle, a blank is one, and numbers may be too large for any word. -/
theorem ports_agree_padded :
    let c : Config := { port := some "+00080" }
    let vars : Variables := fun name => if name = "PGPORT" then some " 80" else none
    let huge : Nat := Nat.pow 2 64 + 80
    (Config.assign {} (.port none)).validate = .ok () ∧ Text.Visible "+00080" ∧
      IsPort "+00080" 80 ∧ c.validate = .ok () ∧
      (Config.assign {} (.port (some "+00080"))).checked = .ok c ∧
      (∃ target, c.connection.resolve vars "osm" = .ok target ∧ target.port = some 80) ∧
      (∃ e, ({} : Config).connection.resolve vars "osm" = .error e) ∧
      Config.ofText .json ("\x7b\"DB_PORT\": " ++ toString 80 ++ "\x7d") =
        .ok { port := some "80" } ∧
      Config.ofText .json ("\x7b\"DB_PORT\": \"" ++ toString 80 ++ "\"\x7d") =
        .ok { port := some "80" } ∧
      ¬ ∃ config, Config.ofText .json ("\x7b\"DB_PORT\": " ++ toString huge ++ "\x7d") =
        .ok config := by
  intro c vars huge
  obtain ⟨validated, checked, connected, loaded, spelled, unset⟩ := ports_agree
  have valid : (Config.assign {} (.port none)).validate = .ok () :=
    eq_ok_of_toOption (by decide +kernel)
  have numeral : IsPort "+00080" 80 := Text.word16?_eq_some_iff.mp (by decide +kernel)
  have blank : ∀ n, ¬ IsPort " 80" n := by
    intro n numeral
    cases (Text.word16?_eq_some_iff.mpr numeral).symm.trans
      (by decide +kernel : Text.word16? " 80".toList = none)
  have read : Config.ofText .json ("\x7b\"DB_PORT\": " ++ toString 80 ++ "\x7d") =
      .ok { port := some "80" } :=
    eq_ok_of_toOption (by decide +kernel)
  have small := loaded 80 _ _ (spelled 80).1 (spelled 80).2
  have large := loaded huge _ _ (spelled huge).1 (spelled huge).2
  have target := connected c _ 80 rfl numeral vars "osm"
  have found : vars "PGPORT" = some " 80" := if_pos rfl
  have failure := (unset {} rfl vars "osm").mpr ⟨" 80", found, by decide, blank⟩
  have validPort := (validated {} _ valid).mpr ⟨80, numeral⟩
  have same := (small.2 _ read).1
  refine ⟨valid, numeral.visible, numeral, validPort, ?_, target, failure, read, same, ?_⟩
  · exact (checked {} {} _ numeral.visible Config.checked_default _).mpr ⟨⟨80, numeral⟩, rfl⟩
  · rw [large.1]
    decide

end Testbed
