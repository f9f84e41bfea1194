import Testbed.Proofs.JsonReading
import Testbed.Proofs.Overriding

/-!
# JSON configurations

An object gives a configuration if its keys are known and different and its values have types that
their settings take. It says which setting has which value, in any order. An array says the same
about the settings in their own order.
-/

namespace Testbed

namespace Json.Value

def text? : Value → Option String
  | .string s => some s
  | _ => none

def optionalText? : Value → Option (Option String)
  | .null => some none
  | .string s => some (some s)
  | _ => none

/-- A port may be given as a natural number of sixty-four bits. -/
def port? : Value → Option (Option String)
  | .null => some none
  | .string s => some (some s)
  | .number n => n.natural?.map fun k => some (toString k)
  | _ => none

def flag? : Value → Option Bool
  | .flag b => some b
  | _ => none

end Json.Value

namespace Config

open Json (Value)

/-- The setting with a value, if its type is one that the setting takes. -/
def Field.typed? : Field → Value → Option Entry
  | .buildDirectory, v => v.text?.map .buildDirectory
  | .host, v => v.optionalText?.map .host
  | .port, v => v.port?.map .port
  | .user, v => v.optionalText?.map .user
  | .password, v => v.optionalText?.map .password
  | .templateDatabase, v => v.text?.map .templateDatabase
  | .testDatabase, v => v.text?.map .testDatabase
  | .apiDatabase, v => v.text?.map .apiDatabase
  | .serverModulePath, v => v.optionalText?.map .serverModulePath
  | .removeTemplate, v => v.flag?.map .removeTemplate
  | .keepTestDatabase, v => v.flag?.map .keepTestDatabase
  | .coverageDirectory, v => v.optionalText?.map .coverageDirectory
  | .scriptCommand, v => v.text?.map .scriptCommand
  | .scriptExtension, v => v.text?.map .scriptExtension

theorem Field.typed?_field {f : Field} {v : Value} {e : Entry} (h : f.typed? v = some e) :
    e.field = f := by
  cases f <;> obtain ⟨value, -, rfl⟩ := Option.map_eq_some_iff.mp h <;> rfl

/-- A setting takes the values of its types and no others. -/
theorem toOption_take (f : Field) (v : Value) : (f.take v).toOption = f.typed? v := by
  cases v with
  | number n =>
    rw [Field.take, Value.events, Json.Number.events]
    rcases Json.token?_cases n with ⟨k, exact, -⟩ | ⟨inexact, large | token⟩
    · rw [exact]
      cases f with
      | port => simp only [Field.typed?, Value.port?, exact]; rfl
      | _ => rfl
    · rw [inexact, large]
      cases f with
      | port => simp only [Field.typed?, Value.port?, inexact]; rfl
      | _ => rfl
    · rw [inexact, token]
      cases f with
      | port => simp only [Field.typed?, Value.port?, inexact]; rfl
      | _ => rfl
  | _ => cases f <;> rfl

theorem take_eq_ok_iff {f : Field} {v : Value} {e : Entry} :
    f.take v = .ok e ↔ f.typed? v = some e := by
  rw [← toOption_take]
  cases f.take v <;> simp [Except.toOption]

/-! ## Members -/

/-- The keys are known and different, and each value has a type that its setting takes. -/
structure Admissible (ms : List (String × Value)) : Prop where
  typed : ∀ m ∈ ms, ∃ f : Field, m.1 = f.key ∧ (f.typed? m.2).isSome
  distinct : (ms.map Prod.fst).Nodup

/-- Each setting has its value if there is a member with its key, and is as before otherwise. -/
structure Describes (ms : List (String × Value)) (before c : Config) : Prop where
  present : ∀ f : Field, ∀ v, (f.key, v) ∈ ms → f.typed? v = some (c.entry f)
  absent : ∀ f : Field, f.key ∉ ms.map Prod.fst → c.entry f = before.entry f

section Members

variable {seen : List Field} {before c : Config} {ms : List (String × Value)}

theorem Field.key_inj {f g : Field} (h : f.key = g.key) : f = g := by
  have same := f.ofKey?_key
  rw [h, g.ofKey?_key] at same
  exact (Option.some.inj same).symm

theorem Admissible.typed_of_mem {f : Field} {v : Value} (h : Admissible ms)
    (mem : (f.key, v) ∈ ms) : (f.typed? v).isSome := by
  obtain ⟨g, same, typed⟩ := h.typed _ mem
  obtain rfl : f = g := Field.key_inj same
  exact typed

/-- What was taken from the first member and what from the others. -/
theorem takeMembers_cons {key : String} {v : Value} :
    takeMembers seen before ((key, v) :: ms) = .ok c ↔
      ∃ f e, key = f.key ∧ f ∉ seen ∧ f.typed? v = some e ∧
        takeMembers (f :: seen) (before.assign e) ms = .ok c := by
  rw [takeMembers]
  constructor
  · intro h
    split at h
    · cases h
    rename_i f known
    split at h
    · cases h
    rename_i new
    obtain ⟨e, taken, others⟩ := bind_eq_ok_iff.mp h
    exact ⟨f, e, Field.key_of_ofKey? known, new, take_eq_ok_iff.mp taken, others⟩
  · rintro ⟨f, e, rfl, new, typed, others⟩
    simp only [f.ofKey?_key, new, if_false, take_eq_ok_iff.mpr typed]
    exact others

/-- Members that are taken are admissible and say what the configuration is. -/
theorem describes_of_takeMembers (h : takeMembers seen before ms = .ok c) :
    Admissible ms ∧ (∀ f ∈ seen, f.key ∉ ms.map Prod.fst) ∧ Describes ms before c := by
  induction ms generalizing seen before with
  | nil =>
    obtain rfl := Except.ok.inj h
    exact ⟨⟨nofun, .nil⟩, nofun, ⟨nofun, fun _ _ => rfl⟩⟩
  | cons m ms ih =>
    obtain ⟨key, v⟩ := m
    obtain ⟨f, e, rfl, new, typed, others⟩ := takeMembers_cons.mp h
    obtain ⟨admissible, fresh, describes⟩ := ih others
    obtain ⟨once, apart⟩ := List.forall_mem_cons.mp fresh
    have field := Field.typed?_field typed
    -- No later member has this key, so the value that was assigned first stays.
    have here : c.entry f = e := by
      rw [describes.absent f once, ← field, entry_assign_same]
    refine ⟨⟨?_, ?_⟩, ?_, ⟨?_, ?_⟩⟩
    · exact List.forall_mem_cons.mpr ⟨⟨f, rfl, by simp [typed]⟩, admissible.typed⟩
    · exact List.nodup_cons.mpr ⟨once, admissible.distinct⟩
    · intro g old mem
      rcases List.mem_cons.mp mem with same | mem
      · exact new (Field.key_inj same ▸ old)
      · exact apart g old mem
    · intro g w mem
      rcases List.mem_cons.mp mem with same | mem
      · obtain ⟨key, rfl⟩ := Prod.mk.inj same
        obtain rfl := Field.key_inj key
        rw [here, typed]
      · exact describes.present g w mem
    · intro g missing
      have other : e.field ≠ g := by
        rw [field]
        rintro rfl
        exact missing List.mem_cons_self
      rw [describes.absent g fun mem => missing (List.mem_cons_of_mem _ mem),
        entry_assign_other other]

theorem takeMembers_of_admissible (seen : List Field) (before : Config) (h : Admissible ms)
    (new : ∀ f ∈ seen, f.key ∉ ms.map Prod.fst) : ∃ c, takeMembers seen before ms = .ok c := by
  induction ms generalizing seen before with
  | nil => exact ⟨before, rfl⟩
  | cons m ms ih =>
    obtain ⟨key, v⟩ := m
    obtain ⟨⟨f, known, typed⟩, others⟩ := List.forall_mem_cons.mp h.typed
    obtain ⟨once, distinct⟩ := List.nodup_cons.mp h.distinct
    obtain ⟨e, typed⟩ := Option.isSome_iff_exists.mp typed
    obtain rfl : key = f.key := known
    have fresh : ∀ g ∈ f :: seen, g.key ∉ ms.map Prod.fst :=
      List.forall_mem_cons.mpr ⟨once, fun g old mem => new g old (List.mem_cons_of_mem _ mem)⟩
    obtain ⟨c, taken⟩ := ih (f :: seen) (before.assign e) ⟨others, distinct⟩ fresh
    exact ⟨c, takeMembers_cons.mpr
      ⟨f, e, rfl, fun old => new f old List.mem_cons_self, typed, taken⟩⟩

/-- Members say what every setting is. -/
theorem Describes.unique {c' : Config} (first : Describes ms before c)
    (second : Describes ms before c') : c = c' := by
  apply ext_entry
  intro f
  by_cases given : f.key ∈ ms.map Prod.fst
  · obtain ⟨⟨key, v⟩, mem, same⟩ := List.mem_map.mp given
    obtain rfl : key = f.key := same
    exact Option.some.inj ((first.present f v mem).symm.trans (second.present f v mem))
  · rw [first.absent f given, second.absent f given]

theorem Admissible.perm {ms' : List (String × Value)} (h : Admissible ms) (same : ms.Perm ms') :
    Admissible ms' where
  typed m mem := h.typed m (same.mem_iff.mpr mem)
  distinct := (same.map Prod.fst).nodup_iff.mp h.distinct

theorem Describes.perm {ms' : List (String × Value)} (h : Describes ms before c)
    (same : ms.Perm ms') : Describes ms' before c where
  present f v mem := h.present f v (same.mem_iff.mpr mem)
  absent f missing := h.absent f fun mem => missing ((same.map Prod.fst).mem_iff.mp mem)

/-- Members are taken in any order. -/
theorem takeMembers_eq_ok_iff :
    takeMembers [] before ms = .ok c ↔ Admissible ms ∧ Describes ms before c := by
  constructor
  · intro h
    obtain ⟨admissible, -, describes⟩ := describes_of_takeMembers h
    exact ⟨admissible, describes⟩
  · rintro ⟨admissible, describes⟩
    obtain ⟨c', taken⟩ := takeMembers_of_admissible [] before admissible nofun
    obtain ⟨-, -, describes'⟩ := describes_of_takeMembers taken
    rw [taken, describes'.unique describes]

end Members

/-! ## Values in the order of the settings -/

/-- Values are taken like members with the keys of the settings. -/
theorem takeMembers_zip (vs : List Value) {fields seen : List Field} (distinct : fields.Nodup)
    (new : ∀ f ∈ fields, f ∉ seen) (c : Config) (short : vs.length ≤ fields.length) :
    takeMembers seen c ((fields.map Field.key).zip vs) = takeValues fields c vs := by
  induction vs generalizing fields seen c with
  | nil =>
    rw [List.zip_nil_right]
    cases fields <;> rfl
  | cons v vs ih =>
    cases fields with
    | nil => cases short
    | cons f fields =>
      obtain ⟨once, distinct⟩ := List.nodup_cons.mp distinct
      obtain ⟨here, others⟩ := List.forall_mem_cons.mp new
      have fresh : ∀ g ∈ fields, g ∉ f :: seen := by
        intro g mem old
        rcases List.mem_cons.mp old with rfl | old
        · exact once mem
        · exact others g mem old
      rw [List.map_cons, List.zip_cons_cons, takeMembers, f.ofKey?_key]
      simp only [here, if_false, takeValues]
      exact congrArg _ (funext fun e =>
        ih distinct fresh (c.assign e) (Nat.le_of_succ_le_succ short))

theorem takeValues_long (vs : List Value) {fields : List Field} (c : Config)
    (long : fields.length < vs.length) : ∃ problem, takeValues fields c vs = .error problem := by
  induction vs generalizing fields c with
  | nil => cases long
  | cons v vs ih =>
    cases fields with
    | nil => exact ⟨_, rfl⟩
    | cons f fields =>
      rw [takeValues]
      cases f.take v with
      | error p => exact ⟨p, rfl⟩
      | ok e => exact ih (c.assign e) (Nat.lt_of_succ_lt_succ long)

/-! ## Texts -/

section Texts

variable {text : String} {ms : List (String × Value)} {vs : List Value}

def outcome : Except Problem Config → Except Fault Config
  | .error problem => .error (.malformed .json problem)
  | .ok c => c.checked

theorem ofText_object (h : Json.Spells text (.object ms)) :
    ofText .json text = outcome (takeMembers [] {} ms) := by
  unfold ofText
  rw [Format.document, ofDocument_object h]
  cases takeMembers [] {} ms <;> rfl

theorem ofText_array (h : Json.Spells text (.array vs)) :
    ofText .json text = outcome (takeValues Field.all {} vs) := by
  unfold ofText
  rw [Format.document, ofDocument_array h]
  cases takeValues Field.all {} vs <;> rfl

/-- Admissible members give a configuration, and it is checked. -/
theorem ofText_of_admissible (h : Json.Spells text (.object ms)) (admissible : Admissible ms) :
    ∃ c, Describes ms {} c ∧ ofText .json text = c.checked := by
  obtain ⟨c, taken⟩ := takeMembers_of_admissible [] {} admissible nofun
  refine ⟨c, (takeMembers_eq_ok_iff.mp taken).2, ?_⟩
  rw [ofText_object h, taken]
  rfl

/-- Other members give none. -/
theorem ofText_of_not_admissible (h : Json.Spells text (.object ms)) (other : ¬ Admissible ms) :
    ∃ problem, ofText .json text = .error (.malformed .json problem) := by
  rw [ofText_object h]
  cases taken : takeMembers [] {} ms with
  | error problem => exact ⟨problem, rfl⟩
  | ok c => exact absurd (takeMembers_eq_ok_iff.mp taken).1 other

theorem entry_normalised_default (f : Field) :
    (({} : Config).entry f).normalised = ({} : Config).entry f := by
  cases f <;> rfl

/-- A text of members that gives a configuration has the values of the members in it. -/
theorem entries_of_ofText {config : Config} (h : Json.Spells text (.object ms))
    (read : ofText .json text = .ok config) :
    Admissible ms ∧
      (∀ f : Field, ∀ v, (f.key, v) ∈ ms →
        (f.typed? v).map Entry.normalised = some (config.entry f)) ∧
      ∀ f : Field, f.key ∉ ms.map Prod.fst → config.entry f = ({} : Config).entry f := by
  rw [ofText_object h] at read
  cases taken : takeMembers [] {} ms with
  | error problem =>
    rw [taken] at read
    cases read
  | ok c =>
    rw [taken] at read
    obtain ⟨admissible, describes⟩ := takeMembers_eq_ok_iff.mp taken
    obtain ⟨rfl, -⟩ := checked_eq_ok_iff.mp read
    refine ⟨admissible, fun f v mem => ?_, fun f missing => ?_⟩
    · rw [describes.present f v mem, entry_normalised]
      rfl
    · rw [entry_normalised, describes.absent f missing, entry_normalised_default]

end Texts

/-- The text of an object gives a configuration only if its keys are known and different and its
values are of types that their settings take. The configuration then has these values and defaults
for the rest, whatever the order of the members, and an array gives what the object gives with the
same values for the settings in their order. Every value has a text. -/
theorem json_order_and_shape :
    (∀ ms text, Json.Spells text (.object ms) →
      (∀ config, ofText .json text = .ok config → Admissible ms ∧
        (∀ f : Field, ∀ v, (f.key, v) ∈ ms →
          (f.typed? v).map Entry.normalised = some (config.entry f)) ∧
        ∀ f : Field, f.key ∉ ms.map Prod.fst → config.entry f = ({} : Config).entry f) ∧
      (Admissible ms → (∃ c, Describes ms {} c ∧ ofText .json text = c.checked) ∧
        ∀ ms' text', ms.Perm ms' → Json.Spells text' (.object ms') →
          ofText .json text' = ofText .json text) ∧
      ((∃ m ∈ ms, ∀ f : Field, m.1 ≠ f.key) ∨ ¬ (ms.map Prod.fst).Nodup ∨
          (∃ f : Field, ∃ v, (f.key, v) ∈ ms ∧ f.typed? v = none) →
        ∃ problem, ofText .json text = .error (.malformed .json problem))) ∧
    (∀ vs text, Json.Spells text (.array vs) →
      (vs.length ≤ Field.all.length → ∀ text',
        Json.Spells text' (.object ((Field.all.map Field.key).zip vs)) →
          ofText .json text = ofText .json text') ∧
      (Field.all.length < vs.length →
        ∃ problem, ofText .json text = .error (.malformed .json problem))) ∧
    (∀ v text, Json.Layout v.lexemes text.toList → Json.Spells text v) ∧
    ∀ v, ∃ text, Json.Spells text v := by
  refine ⟨?_, ?_, fun v text => Json.spells_of_layout, ?_⟩
  · intro ms text spells
    refine ⟨fun config read => entries_of_ofText spells read, fun admissible => ?_, fun wrong => ?_⟩
    · obtain ⟨c, describes, read⟩ := ofText_of_admissible spells admissible
      refine ⟨⟨c, describes, read⟩, fun ms' text' same spells' => ?_⟩
      obtain ⟨c', describes', read'⟩ := ofText_of_admissible spells' (admissible.perm same)
      rw [read', read, describes'.unique (describes.perm same)]
    · apply ofText_of_not_admissible spells
      intro admissible
      rcases wrong with ⟨m, mem, unknown⟩ | repeated | ⟨f, v, mem, untyped⟩
      · obtain ⟨f, known, -⟩ := admissible.typed m mem
        exact unknown f known
      · exact repeated admissible.distinct
      · have typed := admissible.typed_of_mem mem
        simp [untyped] at typed
  · intro vs text spells
    refine ⟨fun short text' spells' => ?_, fun long => ?_⟩
    · rw [ofText_array spells, ofText_object spells',
        takeMembers_zip vs (by decide) (by simp) {} short]
    · obtain ⟨problem, wrong⟩ := takeValues_long vs {} long
      exact ⟨problem, by rw [ofText_array spells, wrong]; rfl⟩
  · intro v
    refine ⟨String.ofList (Json.spaced v.lexemes), Json.spells_of_layout ?_⟩
    rw [String.toList_ofList]
    exact Json.layout_spaced _

/-- Three settings as an object, the other way round, and as an array. -/
theorem json_order_and_shape_three :
    let vs : List Value := [.string "b", .string " ", .number { whole := 5432 }]
    let ms := (Field.all.map Field.key).zip vs
    let object := "\x7b\"BUILDDIR\": \"b\", \"DB_HOST\": \" \", \"DB_PORT\": 5432\x7d"
    let turned := "\x7b\"DB_PORT\":5432,\"DB_HOST\":\"\\u0020\",\"BUILDDIR\":\"b\"\x7d"
    let array := "[\"b\", \" \", 5432]"
    let c : Config := { buildDirectory := "b", port := some "5432" }
    Json.Spells object (.object ms) ∧ Json.Spells turned (.object ms.reverse) ∧
      Json.Spells array (.array vs) ∧ Admissible ms ∧ ofText .json object = .ok c ∧
      ofText .json turned = .ok c ∧ ofText .json array = .ok c := by
  intro vs ms object turned array c
  obtain ⟨members, values, -⟩ := json_order_and_shape
  have spellsObject : Json.Spells object (.object ms) := by decide +kernel
  have spellsTurned : Json.Spells turned (.object ms.reverse) := by decide +kernel
  have spellsArray : Json.Spells array (.array vs) := by decide +kernel
  have read : ofText .json object = .ok c := eq_ok_of_toOption (by decide +kernel)
  obtain ⟨given, ordered, -⟩ := members ms object spellsObject
  obtain ⟨admissible, -⟩ := given c read
  refine ⟨spellsObject, spellsTurned, spellsArray, admissible, read, ?_, ?_⟩
  · rw [(ordered admissible).2 ms.reverse turned (List.reverse_perm ms).symm spellsTurned, read]
  · rw [(values vs array spellsArray).1 (by decide) object spellsObject, read]

end Config

end Testbed
