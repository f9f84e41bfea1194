import Mathlib.Order.BooleanAlgebra.Set
import Testbed.Proofs.Bystanders
import Testbed.Proofs.Home

/-!
# Temporary entries

A fixture makes temporary directories for its websites and temporary files for the data of an
import. However its operations end, between them there is nothing but the directory of the current
website. The file is there, with its content, as long as the import runs.
-/

namespace Testbed

inductive TemporaryEntry where
  | directory (path : String)
  | file (path : String)

namespace Event

variable {Session : Type}

def entriesAfter (entries : Set TemporaryEntry) : Event Session → Set TemporaryEntry
  | madeDirectory _ (.ok path) => insert (.directory path) entries
  | madeFile _ _ (.ok path) => insert (.file path) entries
  | removedDirectory path => entries \ {.directory path}
  | removedFile path => entries \ {.file path}
  | _ => entries

/-- Nothing is written but temporary files and the dotenv files of temporary directories. -/
def InPlace (entries : Set TemporaryEntry) : Event Session → Prop
  | wrote path _ _ => .file path ∈ entries ∨
    ∃ website, .directory website ∈ entries ∧ path = Fixture.dotenvFile website
  | _ => True

def isElsewhere : Event Session → Bool
  | madeDirectory .. | madeFile .. | wrote .. | removedDirectory _ | removedFile _ => false
  | _ => true

theorem inPlace_of_isElsewhere {e : Event Session} (h : e.isElsewhere = true)
    (entries : Set TemporaryEntry) : e.InPlace entries := by
  cases e <;> trivial

theorem isElsewhere_of_isDatabase {e : Event Session} (h : e.isDatabase = true) :
    e.isElsewhere = true := by
  cases e <;> first | rfl | cases h

theorem entriesAfter_of_isElsewhere {e : Event Session} (h : e.isElsewhere = true)
    (entries : Set TemporaryEntry) : e.entriesAfter entries = entries := by
  cases e <;> first | rfl | cases h

/-- All of the events are in place, one after the other. -/
def AllInPlace : Set TemporaryEntry → List (Event Session) → Prop
  | _, [] => True
  | entries, e :: es => e.InPlace entries ∧ AllInPlace (e.entriesAfter entries) es

theorem allInPlace_append {entries : Set TemporaryEntry} {es fs : List (Event Session)} :
    AllInPlace entries (es ++ fs) ↔
      AllInPlace entries es ∧ AllInPlace (es.foldl entriesAfter entries) fs := by
  induction es generalizing entries with
  | nil => simp [AllInPlace]
  | cons e es ih => simp [AllInPlace, ih, and_assoc]

end Event

namespace Fixture

open Work

variable {σ Session α : Type} {p : Plan} {B : Backend σ Session}
  {entries : σ → Set TemporaryEntry} {text : σ → String → Option String}

/-- What is known of temporary entries: they change only with the requests that make or remove
them, as long as nothing is written out of place, and a file that was written holds its content. So
scripts neither add nor remove any. -/
structure TemporaryView (B : Backend σ Session) (entries : σ → Set TemporaryEntry)
    (text : σ → String → Option String) : Prop where
  after : ∀ {e w w'}, B.Happens w e w' → e.InPlace (entries w) →
    entries w' = e.entriesAfter (entries w)
  wrote : ∀ {path content w w'}, B.writeFile path content w = (.ok (), w') →
    text w' path = some content

def websiteEntry : Option String → Set TemporaryEntry
  | some website => {.directory website}
  | none => ∅

/-- There are no temporary entries but the website. -/
def Tidy (entries : σ → Set TemporaryEntry) (b : Bench (Chronicle σ Session)) : Prop :=
  entries b.world.world = websiteEntry b.fixture.website

section Tidiness

variable (view : TemporaryView B entries text)

include view

theorem TemporaryView.chain_after {w w' : σ} {es : List (Event Session)} (chain : B.Chain w es w')
    (inPlace : Event.AllInPlace (entries w) es) :
    entries w' = es.foldl Event.entriesAfter (entries w) := by
  induction chain with
  | nil => rfl
  | cons happens _ ih =>
    obtain ⟨first, rest⟩ := inPlace
    rw [List.foldl_cons, ← view.after happens first]
    exact ih (view.after happens first ▸ rest)

/-- Events elsewhere leave everything tidy. -/
theorem Tidy.elsewhere {b b' : Bench (Chronicle σ Session)} (tidy : Tidy entries b)
    (website : b'.fixture.website = b.fixture.website) {es : List (Event Session)}
    (chain : B.Chain b.world.world es b'.world.world) (quiet : ∀ e ∈ es, e.isElsewhere = true) :
    Tidy entries b' := by
  refine Eq.trans ?_ (tidy.trans (by rw [website]))
  refine chain.keeps (I := fun v => entries v = entries b.world.world) ?_ quiet rfl
  intro v e v' happens elsewhere same
  rw [view.after happens (Event.inPlace_of_isElsewhere elsewhere _),
    Event.entriesAfter_of_isElsewhere elsewhere, same]

omit view in
theorem leaving_entries (Session : Type) (s : State) :
    Event.AllInPlace (websiteEntry s.website) (leaving s : List (Event Session)) ∧
      (leaving s : List (Event Session)).foldl Event.entriesAfter (websiteEntry s.website) = ∅ := by
  unfold leaving
  cases s.website <;> simp [websiteEntry, Event.AllInPlace, Event.InPlace, Event.entriesAfter]

/-- However it ends, writing a configuration leaves nothing but the website. -/
theorem tidy_writeConfig (database : String) :
    Keeps (Tidy entries) (writeConfig p B.watched database) := by
  intro b tidy
  have done : (writeConfig p B.watched database).Gives b _ :=
    (writeConfig_written database b).and ((follows_writeConfig database).watched b)
  refine done.mono (Q := fun _ => Tidy entries) ?_
  rintro r b' ⟨written, es, -, chain, noted, -⟩
  obtain ⟨leave, left⟩ := leaving_entries Session b.fixture
  have after {fs : List (Event Session)}
      (events : b'.world.events = b.world.events ++ (leaving b.fixture ++ fs))
      (inPlace : Event.AllInPlace ∅ fs) :
      entries b'.world.world = fs.foldl Event.entriesAfter ∅ := by
    obtain rfl := List.append_cancel_left (events.symm.trans noted)
    rw [view.chain_after chain, tidy, List.foldl_append, left]
    rw [tidy, Event.allInPlace_append, left]
    exact ⟨leave, inPlace⟩
  cases written with
  | unchanged => exact tidy
  | noDirectory _ state events =>
    rw [Tidy, state, after events (by simp [Event.AllInPlace, Event.InPlace])]
    rfl
  | noDotenv _ state events =>
    rw [Tidy, state, after events (by simp [Event.AllInPlace, Event.InPlace, Event.entriesAfter])]
    simp [Event.entriesAfter, websiteEntry, State.homeless]
  | notSetUp _ state events _ ran =>
    obtain rfl | ⟨_, rfl⟩ := ran.events
    all_goals
      rw [Tidy, state, after events
        (by simp [making, Event.AllInPlace, Event.InPlace, Event.entriesAfter])]
      simp [making, Event.entriesAfter, websiteEntry, State.homeless]
  | setUp _ state events =>
    rw [Tidy, state, after events
      (by simp [making, Event.AllInPlace, Event.InPlace, Event.entriesAfter])]
    simp [making, Event.entriesAfter, websiteEntry, State.settled]

omit view in
theorem remove_file (website : Option String) (path : String) :
    insert (.file path) (websiteEntry website) \ {.file path} = websiteEntry website := by
  cases website <;> simp [websiteEntry]

theorem tidy_importNothing : Keeps (Tidy entries) (importNothing p B.watched) := by
  intro b tidy
  have done : (importNothing p B.watched).Gives b _ :=
    (importNothing_imported b).and (follows_importNothing.watched b)
  refine done.mono (Q := fun _ => Tidy entries) ?_
  rintro r b' ⟨imported, es, -, chain, noted, -⟩
  have same := imported.state
  have after (inPlace : Event.AllInPlace (websiteEntry b.fixture.website) es)
      (restored : es.foldl Event.entriesAfter (websiteEntry b.fixture.website) =
        websiteEntry b.fixture.website) : Tidy entries b' := by
    rw [Tidy, same, view.chain_after chain (tidy ▸ inPlace), tidy, restored]
  cases imported with
  | noFile _ events =>
    obtain rfl := List.append_cancel_left (events.symm.trans noted)
    exact after (by simp [Event.AllInPlace, Event.InPlace]) rfl
  | notWritten _ events =>
    obtain rfl := List.append_cancel_left (events.symm.trans noted)
    exact after (by simp [Event.AllInPlace, Event.InPlace, Event.entriesAfter])
      (remove_file b.fixture.website _)
  | ran _ events _ ran =>
    obtain rfl := List.append_cancel_left (events.symm.trans noted)
    obtain rfl | ⟨_, rfl⟩ := ran.events
    all_goals
      exact after (by simp [Event.AllInPlace, Event.InPlace, Event.entriesAfter])
        (remove_file b.fixture.website _)

theorem tidy_runScript (script : Script.Name) (args : Script.Arguments) :
    Keeps (Tidy entries) (runScript p B.watched script args) := by
  intro b tidy
  have follows : Follows p B.watched (fun e => e.isElsewhere = true)
      (runScript p B.watched script args) := follows_runScript fun _ _ _ => rfl
  obtain ⟨es, -, chain, -, quiet⟩ := follows.watched b
  exact tidy.elsewhere view (congrArg State.website (runScript_fixture script args b)) chain quiet

theorem tidy_act {a : Action (Chronicle σ Session) α} (event : Except Failure α → Event Session)
    (happens : ∀ w, B.watched.Happens w (event (a w).1) (a w).2)
    (server : ∀ x, (event x).isDatabase = true) : Keeps (Tidy entries) (act a) := by
  intro b tidy
  refine tidy.elsewhere view rfl (.single (happens_watched (happens b.world)).1) ?_
  exact List.forall_mem_singleton.mpr (Event.isElsewhere_of_isDatabase (server _))

theorem tidy_perform (op : Operation Session) :
    Keeps (Tidy entries) (op.perform p B.watched) := by
  refine closed_perform_server (closed_keeps fun _ _ => id) (tidy_act view) op (fun _ _ => id)
    (fun _ => id) (tidy_writeConfig view) (tidy_runScript view) (tidy_importNothing view)
    (fun s b tidy => ?_) (fun _ => keeps_nextCoverageFile fun _ _ => id)
  have closed := (happens_watched (B := B) (c := b.world) (e := .closed s) rfl).1
  exact tidy.elsewhere view rfl (.single closed) (by simp [Event.isElsewhere])

end Tidiness

/-! ## The data of an import -/

/-- A script was run to import the data of a file. -/
def Imports (p : Plan) (osm : String) : Event Session → Prop
  | .ranScript i _ => i.command = p.command .setup (importArguments osm)
  | _ => False

theorem Plan.import_injective {osm osm' : String}
    (same : p.command .setup (importArguments osm) = p.command .setup (importArguments osm')) :
    osm = osm' := by
  simpa [importArguments, Script.Arguments.toWords] using Plan.toWords_eq same

/-- Every import among the events finds its file, which holds data without objects. -/
def Supplied (p : Plan) (B : Backend σ Session) (entries : σ → Set TemporaryEntry)
    (text : σ → String → Option String) (w : σ) (es : List (Event Session)) (w' : σ) : Prop :=
  ∀ before e after osm, es = before ++ e :: after → Imports p osm e →
    ∃ m, B.Chain w before m ∧ B.Chain m (e :: after) w' ∧
      .file osm ∈ entries m ∧ text m osm = some emptyOsm

theorem supplied_of_none {w w' : σ} {es : List (Event Session)}
    (none : ∀ e ∈ es, ∀ osm, ¬ Imports p osm e) : Supplied p B entries text w es w' := by
  rintro before e after osm rfl imports
  exact absurd imports (none e (List.mem_append_right before (.head _)) osm)

theorem supplied_single {w w' : σ} {x : Event Session} (chain : B.Chain w [x] w')
    (found : ∀ osm, Imports p osm x → .file osm ∈ entries w ∧ text w osm = some emptyOsm) :
    Supplied p B entries text w [x] w' := by
  intro before e after osm split imports
  cases before with
  | nil =>
    obtain ⟨rfl, rfl⟩ := List.cons.inj split
    exact ⟨w, .nil, chain, found osm imports⟩
  | cons y before => simp at split

theorem Supplied.append {w m w' : σ} {es fs : List (Event Session)}
    (first : Supplied p B entries text w es m) (second : Supplied p B entries text m fs w')
    (chain : B.Chain w es m) (chain' : B.Chain m fs w') :
    Supplied p B entries text w (es ++ fs) w' := by
  intro before e after osm split imports
  obtain ⟨more, rfl, rest⟩ | ⟨here, rfl, rest⟩ := List.append_eq_append_iff.mp split
  · obtain ⟨n, upTo, onward, found⟩ := second more e after osm rest imports
    exact ⟨n, chain.append upTo, onward, found⟩
  · cases here with
    | nil =>
      obtain ⟨n, upTo, onward, found⟩ := second [] e after osm rest.symm imports
      exact ⟨n, by simpa using chain.append upTo, onward, found⟩
    | cons x here =>
      obtain ⟨rfl, rfl⟩ := List.cons.inj rest
      obtain ⟨n, upTo, onward, found⟩ := first before e here osm rfl imports
      exact ⟨n, upTo, onward.append chain', found⟩

/-- What happened from one bench to another was written down, and all imports were supplied. -/
def SuppliedBetween (p : Plan) (B : Backend σ Session) (entries : σ → Set TemporaryEntry)
    (text : σ → String → Option String) (b b' : Bench (Chronicle σ Session)) : Prop :=
  ∃ es, b'.world.events = b.world.events ++ es ∧ B.Chain b.world.world es b'.world.world ∧
    Supplied p B entries text b.world.world es b'.world.world

theorem SuppliedBetween.of_same {b b' : Bench (Chronicle σ Session)} (same : b'.world = b.world) :
    SuppliedBetween p B entries text b b' := by
  refine ⟨[], by simp [same], ?_, supplied_of_none nofun⟩
  rw [same]
  exact .nil

theorem SuppliedBetween.trans {b m b' : Bench (Chronicle σ Session)}
    (first : SuppliedBetween p B entries text b m)
    (second : SuppliedBetween p B entries text m b') :
    SuppliedBetween p B entries text b b' := by
  obtain ⟨es, noted, chain, supplied⟩ := first
  obtain ⟨fs, noted', chain', supplied'⟩ := second
  exact ⟨es ++ fs, by rw [noted', noted, List.append_assoc], chain.append chain',
    supplied.append supplied' chain chain'⟩

def Supplies (p : Plan) (B : Backend σ Session) (entries : σ → Set TemporaryEntry)
    (text : σ → String → Option String) (w : Work (Chronicle σ Session) α) : Prop :=
  ∀ b, w.Gives b fun _ b' => SuppliedBetween p B entries text b b'

theorem closed_supplies (p : Plan) (B : Backend σ Session) (entries : σ → Set TemporaryEntry)
    (text : σ → String → Option String) : Closed (Supplies p B entries text) where
  pure _ _ := .of_same rfl
  throw _ _ := .of_same rfl
  fixture _ := .of_same rfl
  look _ _ := .of_same rfl
  tell _ _ := .of_same rfl
  bind hw hf b := (hw b).bind (fun a m first => (hf a m).mono fun _ _ => first.trans) fun _ _ => id
  attempt hw := hw
  finally_ hw hl b := (hw b).trans (hl _)

theorem Follows.supplies {Φ : Event Session → Prop} {w : Work (Chronicle σ Session) α}
    (follows : Follows p B.watched Φ w) (none : ∀ e, Φ e → ∀ osm, ¬ Imports p osm e) :
    Supplies p B entries text w := by
  intro b
  refine (follows.watched b).mono ?_
  rintro _ b' ⟨es, -, chain, noted, all⟩
  exact ⟨es, noted, chain, supplied_of_none fun e mem => none e (all e mem)⟩

theorem supplies_writeConfig (database : String) :
    Supplies p B entries text (writeConfig p B.watched database) := by
  refine (follows_writeConfig database).supplies fun e settling osm imports => ?_
  cases e with
  | ranScript i answer =>
    exact Plan.import_ne (by decide) osm (settling.symm.trans imports)
  | _ => cases imports

theorem supplies_act {a : Action (Chronicle σ Session) α} (event : Except Failure α → Event Session)
    (happens : ∀ w, B.watched.Happens w (event (a w).1) (a w).2)
    (server : ∀ x, (event x).isDatabase = true) : Supplies p B entries text (act a) := by
  have follows : Follows p B.watched (fun e => e.isDatabase = true) (act a) :=
    follows_act event happens fun x => ⟨Event.isPlain_of_isDatabase (server x), server x⟩
  refine follows.supplies fun e database osm imports => ?_
  cases e <;> first | cases imports | cases database

/-- The file of an import is made, written, used and removed. -/
theorem supplies_importNothing (view : TemporaryView B entries text) :
    Supplies p B entries text (importNothing p B.watched) := by
  intro b
  refine ((importNothing_imported b).and (follows_importNothing.watched b)).mono ?_
  rintro r b' ⟨imported, es, -, chain, noted, -⟩
  refine ⟨es, noted, chain, ?_⟩
  cases imported with
  | noFile _ events | notWritten _ events =>
    obtain rfl := List.append_cancel_left (events.symm.trans noted)
    exact supplied_of_none (by simp [Imports])
  | @ran osm _ run _ _ _ events _ ran =>
    obtain rfl := List.append_cancel_left (events.symm.trans noted)
    obtain rfl | ⟨answer, rfl⟩ := ran.events
    · exact supplied_of_none (by simp [Imports])
    obtain ⟨m, supply, rest⟩ := chain.of_append
    have there : .file osm ∈ entries m ∧ text m osm = some emptyOsm := by
      obtain _ | ⟨made, _ | ⟨wrote, _ | _⟩⟩ := supply
      have first := view.after made trivial
      have second := view.after wrote (.inl (first ▸ Set.mem_insert _ _))
      exact ⟨by rw [second, first]; exact Set.mem_insert _ _, view.wrote wrote⟩
    obtain ⟨n, ran, removed⟩ := rest.of_append
    have supplied : Supplied p B entries text m
        [.ranScript (p.invocation b.fixture .setup (importArguments osm)) answer] n :=
      supplied_single ran fun osm' imports => Plan.import_injective imports ▸ there
    have after : Supplied p B entries text n [.removedFile osm] b'.world.world :=
      supplied_of_none (by simp [Imports])
    exact (supplied_of_none (by simp [Imports])).append (supplied.append after ran removed)
      supply rest

theorem supplies_perform (view : TemporaryView B entries text) {op : Operation Session}
    (setsUp : op.setsUp = true) : Supplies p B entries text (op.perform p B.watched) := by
  have closed := closed_supplies p B entries text
  have template : Supplies p B entries text (setupTemplate p B.watched) := by
    refine closed_setupTemplate_server closed supplies_act (fun _ _ => .of_same rfl)
      (fun _ => .of_same rfl) (supplies_writeConfig _) ?_ (supplies_importNothing view)
    refine (follows_runScript (Φ := fun e => ∀ osm, ¬ Imports p osm e) ?_).supplies fun _ => id
    exact fun i answer command osm imports =>
      Plan.import_ne (by decide) osm (command.symm.trans imports)
  cases op with
  | setupTemplate => exact closed.bind template fun _ => closed.pure _
  | setupDatabase =>
    exact closed.bind (closed_setupDatabase_server closed supplies_act template
      (supplies_writeConfig _)) fun _ => closed.pure _
  | _ => cases setsUp

theorem Tidy.no_file {b : Bench (Chronicle σ Session)} (tidy : Tidy entries b) (path : String) :
    .file path ∉ entries b.world.world := by
  rw [tidy]
  cases b.fixture.website <;> simp [websiteEntry]

/-- If there are no temporary entries at first, then there are none between operations but the
current website. A configuration leaves its own website or, if it cannot be written, nothing. While
a set-up imports data, the file with the data is there, and it is gone afterwards. -/
theorem temporary_entries (view : TemporaryView B entries text) (ops : List (Operation Session))
    {w : σ} (empty : entries w = ∅) :
    let b := (Operation.run p B.watched ops { world := { world := w } }).2
    entries b.world.world = websiteEntry b.fixture.website ∧
    (∀ database, (writeConfig p B.watched database).Gives b fun r b' =>
      match r with
      | .ok () => ∃ website, b'.fixture.website = some website ∧
          entries b'.world.world = {.directory website}
      | .error _ => entries b'.world.world = ∅) ∧
    ∀ op : Operation Session, op.setsUp = true → (op.perform p B.watched).Gives b fun _ b' =>
      SuppliedBetween p B entries text b b' ∧ ∀ path, .file path ∉ entries b'.world.world := by
  intro b
  have tidy : Tidy entries b := Operation.run_keeps (fun op _ => tidy_perform view op) empty
  have configured : b.fixture.Configured p := by
    obtain ⟨_, course, -⟩ := run_course (p := p) (B := B) ops { world := { world := w } }
    exact course.configured nofun
  refine ⟨tidy, fun database => ?_, fun op setsUp => ?_⟩
  · have done : (writeConfig p B.watched database).Gives b fun r b' =>
        Written p B database b r b' ∧ Tidy entries b' :=
      (writeConfig_written database b).and (tidy_writeConfig view database b tidy)
    refine done.mono ?_
    rintro (e | ⟨⟩) b' ⟨written, after⟩
    · rw [after, written.homeless]
      rfl
    · obtain ⟨website, here⟩ := Option.isSome_iff_exists.mp (written.atHome configured).1
      exact ⟨website, here, by rw [after, here]; rfl⟩
  · have done : (op.perform p B.watched).Gives b fun _ b' => Tidy entries b' :=
      tidy_perform view op b tidy
    exact (done.and (supplies_perform view setsUp b)).mono fun _ b' both => ⟨both.2, both.1.no_file⟩

end Fixture

/-- The temporary entries of a world in which nobody else makes any. -/
def Chronicle.entries {σ Session : Type} (c : Chronicle σ Session) : Set TemporaryEntry :=
  c.events.foldl Event.entriesAfter ∅

namespace PlainWorld

open Fixture

theorem temporaryView :
    TemporaryView backend.watched Chronicle.entries fun c path => c.world.text path where
  after {e c c'} happens _ := by
    rw [Chronicle.entries, (happens_watched happens).2, List.foldl_append]
    rfl
  wrote {path content c c'} written :=
    fileView.wrote (happens_watched (e := .wrote path content (.ok ())) written).1

end PlainWorld

namespace Fixture

/-- The import fails at first. A second set-up imports from a file of its own, and a configuration
that cannot be written leaves nothing. -/
theorem temporary_entries_retried :
    let ops : List (Operation String) := [.setupTemplate]
    let start : Chronicle PlainWorld String :=
      { world := { troubles := List.replicate 8 false ++ [true] } }
    let full : Chronicle PlainWorld String :=
      { world := { troubles := List.replicate 8 false ++ [true, false, true] } }
    let b := (Operation.run PlainWorld.plan PlainWorld.backend.watched.watched ops
      { world := { world := start } }).2
    let c := (Operation.run PlainWorld.plan PlainWorld.backend.watched.watched ops
      { world := { world := full } }).2
    start.entries = ∅ ∧ full.entries = ∅ ∧ b.fixture.website.isSome = true ∧
    b.world.world.entries = websiteEntry b.fixture.website ∧
    (Operation.setupTemplate.perform PlainWorld.plan PlainWorld.backend.watched.watched).Gives b
      (fun r b' => r.isOk = true ∧
        (b'.world.events.any fun
          | .ranScript i _ =>
            i.command = PlainWorld.plan.command .setup (importArguments "/tmp/geofixture-2.xml")
          | _ => false) = true ∧
        SuppliedBetween PlainWorld.plan PlainWorld.backend.watched Chronicle.entries
          (fun c path => c.world.text path) b b' ∧ ∀ path, .file path ∉ b'.world.world.entries) ∧
    (writeConfig PlainWorld.plan PlainWorld.backend.watched.watched "more").Gives c fun r c' =>
      r.isOk = false ∧ c'.world.world.entries = ∅ := by
  intro ops start full
  have empty : start.entries = ∅ ∧ full.entries = ∅ := ⟨rfl, rfl⟩
  obtain ⟨here, -, imports⟩ :=
    temporary_entries (p := PlainWorld.plan) PlainWorld.temporaryView ops empty.1
  -- the world stays abstract here, or its run would be evaluated at every step
  have unwritten (world : Chronicle PlainWorld String) (empty : world.entries = ∅) :
      let c := (Operation.run PlainWorld.plan PlainWorld.backend.watched.watched ops
        { world := { world } }).2
      (writeConfig PlainWorld.plan PlainWorld.backend.watched.watched "more" c).1.isOk = false →
      (writeConfig PlainWorld.plan PlainWorld.backend.watched.watched "more").Gives c fun r c' =>
        r.isOk = false ∧ c'.world.world.entries = ∅ := by
    intro c failed
    have written :=
      (temporary_entries (p := PlainWorld.plan) PlainWorld.temporaryView ops empty).2.1 "more"
    refine (Work.Gives.and (P := fun r _ => r.isOk = false) failed written).mono ?_
    rintro (e | ⟨⟩) c' ⟨failed, left⟩
    · exact ⟨rfl, left⟩
    · cases failed
  exact ⟨empty.1, empty.2, by decide +kernel, here,
    ⟨by decide +kernel, by decide +kernel, imports .setupTemplate rfl⟩,
    unwritten full empty.2 (by decide +kernel)⟩

end Fixture

end Testbed
