import Testbed.CommandLine
import Testbed.Proofs.Result

/-!
# What a configuration file says

The entries of a document are its settings with their values, in the order of the document. The
configuration of a document has these values, and defaults for the rest.
-/

namespace Testbed.Config

open Document (Event Scalar)

/-! ## Configurations by setting -/

def Entry.field : Entry → Field
  | .buildDirectory _ => .buildDirectory
  | .host _ => .host
  | .port _ => .port
  | .user _ => .user
  | .password _ => .password
  | .templateDatabase _ => .templateDatabase
  | .testDatabase _ => .testDatabase
  | .apiDatabase _ => .apiDatabase
  | .serverModulePath _ => .serverModulePath
  | .removeTemplate _ => .removeTemplate
  | .keepTestDatabase _ => .keepTestDatabase
  | .coverageDirectory _ => .coverageDirectory
  | .scriptCommand _ => .scriptCommand
  | .scriptExtension _ => .scriptExtension

def entry (c : Config) : Field → Entry
  | .buildDirectory => .buildDirectory c.buildDirectory
  | .host => .host c.host
  | .port => .port c.port
  | .user => .user c.user
  | .password => .password c.password
  | .templateDatabase => .templateDatabase c.templateDatabase
  | .testDatabase => .testDatabase c.testDatabase
  | .apiDatabase => .apiDatabase c.apiDatabase
  | .serverModulePath => .serverModulePath c.serverModulePath
  | .removeTemplate => .removeTemplate c.removeTemplate
  | .keepTestDatabase => .keepTestDatabase c.keepTestDatabase
  | .coverageDirectory => .coverageDirectory c.coverageDirectory
  | .scriptCommand => .scriptCommand c.scriptCommand
  | .scriptExtension => .scriptExtension c.scriptExtension

/-- The setting with its value unset if it is optional and blank. -/
def Entry.normalised : Entry → Entry
  | .host value => .host (unlessBlank value)
  | .port value => .port (unlessBlank value)
  | .user value => .user (unlessBlank value)
  | .password value => .password (unlessBlank value)
  | .serverModulePath value => .serverModulePath (unlessBlank value)
  | .coverageDirectory value => .coverageDirectory (value.filter fun s => !s.isEmpty)
  | entry => entry

def Entry.ofOption : (f : Field) → (CommandLine.OptionName.setting f).Value → Entry
  | .buildDirectory, value => .buildDirectory value
  | .host, value => .host (some value)
  | .port, value => .port (some value)
  | .user, value => .user (some value)
  | .password, value => .password (some value)
  | .templateDatabase, value => .templateDatabase value
  | .testDatabase, value => .testDatabase value
  | .apiDatabase, value => .apiDatabase value
  | .serverModulePath, value => .serverModulePath (some value)
  | .removeTemplate, value => .removeTemplate value
  | .keepTestDatabase, value => .keepTestDatabase value
  | .coverageDirectory, value => .coverageDirectory (some value)
  | .scriptCommand, value => .scriptCommand value
  | .scriptExtension, value => .scriptExtension value

section Settings

variable {c : Config} {f : Field}

theorem entry_assign_same (e : Entry) : (c.assign e).entry e.field = e := by
  cases e <;> rfl

theorem entry_assign_other {e : Entry} (h : e.field ≠ f) : (c.assign e).entry f = c.entry f := by
  cases e <;> cases f <;> first | rfl | exact absurd rfl h

theorem entry_normalised : c.normalised.entry f = (c.entry f).normalised := by
  cases f <;> rfl

theorem Entry.normalised_normalised (e : Entry) : e.normalised.normalised = e.normalised := by
  cases e <;> simp [normalised, unlessBlank, Option.filter_filter]

theorem normalised_assign (c : Config) (e : Entry) :
    (c.assign e).normalised = c.normalised.assign e.normalised := by
  cases e <;> rfl

theorem entry_overlay (g : CommandLine.Given) : (c.overlay (CommandLine.overridesOf g)).entry f =
    ((g (.setting f)).map (Entry.ofOption f)).getD (c.entry f) := by
  cases f <;> simp only [overlay, CommandLine.overridesOf, entry] <;>
    cases g (.setting _) <;> rfl

end Settings

/-! ## Documents by setting -/

/-- The members of a mapping from a place on, up to its end. -/
inductive Members (d : Document) : Cursor → List Entry → Cursor → Prop
  | close {here next : Cursor} {node : Node} (found : readNode d here = .ok (node, next))
      (ends : node.event = .close) : Members d here [] next
  | cons {here next middle last : Cursor} {node : Node} {s : Scalar} {f : Field} {e : Entry}
      {entries : List Entry} (found : readNode d here = .ok (node, next))
      (scalar : node.event = .scalar s) (key : s.text = .ok f.key)
      (value : f.read d next = .ok (e, middle)) (others : Members d middle entries last) :
      Members d here (e :: entries) last

/-- The values of a sequence for the given settings, up to its end. -/
inductive Values (d : Document) : List Field → Cursor → List Entry → Cursor → Prop
  | close {fields : List Field} {here : Cursor} (ends : d.events[here.position]? = some .close) :
      Values d fields here [] { here with position := here.position + 1 }
  | cons {fields : List Field} {here middle last : Cursor} {f : Field} {e : Entry}
      {entries : List Entry} (value : f.read d here = .ok (e, middle))
      (others : Values d fields middle entries last) :
      Values d (f :: fields) here (e :: entries) last

inductive Holds (d : Document) : List Entry → Prop
  | mapping {node : Node} {next last : Cursor} {tagged : Bool} {entries : List Entry}
      (root : readNode d {} = .ok (node, next)) (opens : node.event = .openMapping tagged)
      (members : Members d next entries last) : Holds d entries
  | sequence {node : Node} {next last : Cursor} {tagged : Bool} {entries : List Entry}
      (root : readNode d {} = .ok (node, next)) (opens : node.event = .openSequence tagged)
      (positional : d.positional) (values : Values d Field.all next entries last) : Holds d entries
  | nothing {node : Node} {next : Cursor} (root : readNode d {} = .ok (node, next))
      (absent : node.event = .nothing) : Holds d []
  | blank {node : Node} {next : Cursor} {s : Scalar} (root : readNode d {} = .ok (node, next))
      (scalar : node.event = .scalar s) (blank : s.isBlank) : Holds d []

section Documents

variable {d : Document} {f : Field} {here next last : Cursor} {s : Scalar} {e : Entry}
variable {fields seen : List Field} {c c' : Config}

theorem Field.key_of_ofKey? {key : String} (h : Field.ofKey? key = some f) : key = f.key := by
  have same : f.key = key := by simpa using List.find?_some h
  exact same.symm

/-- What is read as the value of a setting is an entry of that setting. -/
theorem Field.ofScalar_field (h : f.ofScalar s = .ok e) : e.field = f := by
  have map {α : Type} {r : Except Problem α} {make : α → Entry} (h : make <$> r = .ok e)
      (made : ∀ a, (make a).field = f) : e.field = f := by
    cases r with
    | error => cases h
    | ok a =>
      obtain rfl := Except.ok.inj h
      exact made a
  cases f <;> exact map h fun _ => rfl

theorem Field.read_field (h : f.read d here = .ok (e, next)) : e.field = f := by
  obtain ⟨⟨node, middle⟩, -, h⟩ := bind_eq_ok_iff.mp h
  dsimp only at h
  split at h
  · obtain ⟨e', scalar, same⟩ := bind_eq_ok_iff.mp h
    obtain ⟨rfl, -⟩ := Prod.mk.inj (Except.ok.inj same)
    exact Field.ofScalar_field scalar
  · cases h

theorem nodup_fields_cons {entries : List Entry} (new : ∀ e' ∈ entries, e'.field ≠ e.field)
    (distinct : (entries.map Entry.field).Nodup) : ((e :: entries).map Entry.field).Nodup := by
  refine List.nodup_cons.mpr ⟨fun mem => ?_, distinct⟩
  obtain ⟨e', mem, same⟩ := List.mem_map.mp mem
  exact new e' mem same

/-- Reading members goes through them one by one, and takes each setting once. -/
theorem members_of_readMembers {fuel : Nat} (h : readMembers fuel seen c d here = .ok (c', last)) :
    ∃ entries, Members d here entries last ∧ c' = entries.foldl assign c ∧
      (entries.map Entry.field).Nodup ∧ ∀ e ∈ entries, e.field ∉ seen := by
  induction fuel generalizing seen c here with
  | zero => cases h
  | succ fuel ih =>
    obtain ⟨⟨node, next⟩, found, h⟩ := bind_eq_ok_iff.mp h
    dsimp only at h
    split at h
    · rename_i ends
      obtain ⟨rfl, rfl⟩ := Prod.mk.inj (Except.ok.inj h)
      exact ⟨[], .close found ends, rfl, .nil, nofun⟩
    · rename_i s scalar
      obtain ⟨key, text, h⟩ := bind_eq_ok_iff.mp h
      split at h
      · cases h
      rename_i f known
      split at h
      · cases h
      rename_i new
      obtain ⟨⟨e, middle⟩, value, h⟩ := bind_eq_ok_iff.mp h
      obtain ⟨entries, members, rfl, distinct, fresh⟩ := ih h
      have field : e.field = f := Field.read_field value
      rw [Field.key_of_ofKey? known] at text
      refine ⟨e :: entries, .cons found scalar text value members, rfl, ?_, ?_⟩
      · exact nodup_fields_cons (fun e' mem same => fresh e' mem (by simp [same, field])) distinct
      · rintro e' (_ | ⟨_, mem⟩)
        · rwa [field]
        · exact fun old => fresh e' mem (List.mem_cons_of_mem _ old)
    · cases h

/-- Reading values takes each of the given settings once at most. -/
theorem values_of_readValues (h : readValues fields c d here = .ok (c', last))
    (distinct : fields.Nodup) : ∃ entries, Values d fields here entries last ∧
      c' = entries.foldl assign c ∧ (entries.map Entry.field).Nodup ∧
      ∀ e ∈ entries, e.field ∈ fields := by
  induction fields generalizing c here with
  | nil =>
    unfold readValues at h
    split at h
    · cases h
    · rename_i ends
      obtain ⟨rfl, rfl⟩ := Prod.mk.inj (Except.ok.inj h)
      exact ⟨[], .close ends, rfl, .nil, nofun⟩
    · cases h
  | cons f fields ih =>
    obtain ⟨new, others⟩ := List.nodup_cons.mp distinct
    unfold readValues at h
    split at h
    · cases h
    · rename_i ends
      obtain ⟨rfl, rfl⟩ := Prod.mk.inj (Except.ok.inj h)
      exact ⟨[], .close ends, rfl, .nil, nofun⟩
    · obtain ⟨⟨e, middle⟩, value, h⟩ := bind_eq_ok_iff.mp h
      obtain ⟨entries, values, rfl, once, among⟩ := ih h others
      have field : e.field = f := Field.read_field value
      refine ⟨e :: entries, .cons value values, rfl, ?_, ?_⟩
      · exact nodup_fields_cons (fun e' mem same => new (field ▸ same ▸ among e' mem)) once
      · rintro e' (_ | ⟨_, mem⟩)
        · simp [field]
        · exact List.mem_cons_of_mem _ (among e' mem)

/-- A configuration that is read has the entries of its document over the defaults. -/
theorem holds_of_ofDocument (h : ofDocument d = .ok c) : ∃ entries, Holds d entries ∧
    c = entries.foldl assign {} ∧ (entries.map Entry.field).Nodup := by
  obtain ⟨⟨read, last⟩, root, h⟩ := bind_eq_ok_iff.mp h
  obtain rfl : read = c := by
    dsimp only at h
    split at h
    · exact Except.ok.inj h
    · cases h
  obtain ⟨⟨node, next⟩, found, h⟩ := bind_eq_ok_iff.mp root
  dsimp only at h
  split at h
  · rename_i opens
    obtain ⟨entries, members, rfl, distinct, -⟩ := members_of_readMembers h
    exact ⟨entries, .mapping found opens members, rfl, distinct⟩
  · rename_i opens
    split at h
    · rename_i positional
      obtain ⟨entries, values, rfl, distinct, -⟩ := values_of_readValues h (by decide)
      exact ⟨entries, .sequence found opens positional values, rfl, distinct⟩
    · cases h
  · rename_i absent
    obtain ⟨rfl, rfl⟩ := Prod.mk.inj (Except.ok.inj h)
    exact ⟨[], .nothing found absent, rfl, .nil⟩
  · rename_i scalar
    split at h
    · rename_i blank
      obtain ⟨rfl, rfl⟩ := Prod.mk.inj (Except.ok.inj h)
      exact ⟨[], .blank found scalar blank, rfl, .nil⟩
    · cases h
  · cases h

/-- What a setting is after entries of which each has a setting of its own. -/
theorem entry_foldl_assign {entries : List Entry} (distinct : (entries.map Entry.field).Nodup) :
    (entries.foldl assign c).entry f = (entries.find? (·.field = f)).getD (c.entry f) := by
  induction entries generalizing c with
  | nil => rfl
  | cons e entries ih =>
    obtain ⟨new, others⟩ := List.nodup_cons.mp (List.map_cons ▸ distinct)
    rw [List.foldl_cons, ih others]
    by_cases same : e.field = f
    · subst same
      have absent : entries.find? (·.field = e.field) = none := by
        rw [List.find?_eq_none]
        intro e' mem same
        exact new (List.mem_map.mpr ⟨e', mem, by simpa using same⟩)
      simp [absent, entry_assign_same]
    · simp [same, entry_assign_other]

end Documents

end Testbed.Config
