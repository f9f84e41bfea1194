import Testbed.Proofs.PlainWorld
import Testbed.Proofs.Template

/-!
# A fixture is at home in its website

Whenever a fixture has a website, that website was made and set up for one database, its dotenv
file still holds the variables of that database, and these are the variables of every script. So
it is safe to write no configuration where there is one for the same database already.
-/

namespace Testbed.Fixture

open Work

variable {σ Session α : Type} {p : Plan} {B : Backend σ Session}
  {text : σ → String → Option String}

/-- The event leaves the dotenv file of the website alone. A script is trusted not to write to the
website that it runs in, and a file with data is none with variables. -/
def Spares (website : String) : Event Session → Prop
  | .ranScript i _ => i.directory = website
  | .madeFile _ ending _ => ending = osmEnding
  | .wrote path _ _ | .removedFile path => ∃ front, path = front ++ osmEnding
  | .removedDirectory _ | .ranCommand .. => False
  | _ => True

theorem spares_of_isDatabase {Session : Type} {e : Event Session} (h : e.isDatabase = true)
    (website : String) : Spares website e := by
  cases e <;> trivial

/-- What is known of the files: a file that was written holds its content, a temporary file has the
ending that was asked for, and a dotenv file does not change by itself. -/
structure FileView (B : Backend σ Session) (text : σ → String → Option String) : Prop where
  wrote : ∀ {path content w w'}, B.writeFile path content w = (.ok (), w') →
    text w' path = some content
  ending : ∀ {stem ending path w w'}, B.makeFile stem ending w = (.ok path, w') →
    ∃ front, path = front ++ ending
  kept : ∀ {website e w w'}, B.Happens w e w' → Spares website e →
    text w' (dotenvFile website) = text w (dotenvFile website)

/-- The website was made for the database and set up, and no directory was made or removed since. -/
def MovedIn (p : Plan) (website database : String) (events : List (Event Session)) : Prop :=
  ∃ before after, events = before ++ (making p database website ++
      .ranScript (p.setupRun website database websiteArguments) (.ok ()) :: after) ∧
    ∀ e ∈ after, e.isDirectory = false

/-- The fixture is at home in a website for a database. -/
structure Resides (p : Plan) (text : σ → String → Option String) (website database : String)
    (b : Bench (Chronicle σ Session)) : Prop where
  here : b.fixture.website = some website
  environment : b.fixture.environment = some (p.variablesOf database)
  dotenv : text b.world.world (dotenvFile website) = some (Dotenv.render (p.variablesOf database))
  movedIn : MovedIn p website database b.world.events

/-- A fixture that has a website is at home there. -/
structure Coherent (p : Plan) (text : σ → String → Option String)
    (b : Bench (Chronicle σ Session)) : Prop where
  configured : b.fixture.Configured p
  resides : ∀ website, b.fixture.website = some website →
    ∃ database, Resides p text website database b

theorem Resides.of_same {website database : String} {b b' : Bench (Chronicle σ Session)}
    (h : Resides p text website database b) (place : b'.fixture.website = b.fixture.website)
    (dictionary : b'.fixture.environment = b.fixture.environment) (world : b'.world = b.world) :
    Resides p text website database b' :=
  ⟨place.trans h.here, dictionary.trans h.environment, by rw [world, h.dotenv],
    by rw [world]; exact h.movedIn⟩

theorem Coherent.of_same {b b' : Bench (Chronicle σ Session)} (h : Coherent p text b)
    (website : b'.fixture.website = b.fixture.website)
    (dictionary : b'.fixture.environment = b.fixture.environment) (world : b'.world = b.world) :
    Coherent p text b' where
  configured environment written := h.configured environment (dictionary ▸ written)
  resides place there := by
    obtain ⟨database, resides⟩ := h.resides place (website ▸ there)
    exact ⟨database, resides.of_same website dictionary world⟩

theorem FileView.chain_kept (files : FileView B text) {website : String} {w w' : σ}
    {es : List (Event Session)} (chain : B.Chain w es w') (spared : ∀ e ∈ es, Spares website e) :
    text w' (dotenvFile website) = text w (dotenvFile website) := by
  refine chain.keeps (I := fun v => text v (dotenvFile website) = text w (dotenvFile website))
    (fun happens spares same => ?_) spared rfl
  exact (files.kept happens spares).trans same

/-- Nothing is lost as long as the website is spared and the fixture stays where it is. -/
theorem Coherent.spared (files : FileView B text) {b b' : Bench (Chronicle σ Session)}
    {es : List (Event Session)} (h : Coherent p text b)
    (website : b'.fixture.website = b.fixture.website)
    (dictionary : b'.fixture.environment = b.fixture.environment)
    (chain : B.Chain b.world.world es b'.world.world)
    (events : b'.world.events = b.world.events ++ es)
    (spared : ∀ place, b.fixture.website = some place → ∀ e ∈ es, Spares place e)
    (still : ∀ e ∈ es, e.isDirectory = false) : Coherent p text b' where
  configured environment written := h.configured environment (dictionary ▸ written)
  resides place there := by
    rw [website] at there
    obtain ⟨database, here, own, dotenv, before, after, past, quiet⟩ := h.resides place there
    refine ⟨database, website.trans here, dictionary.trans own, ?_, before, after ++ es, ?_, ?_⟩
    · rw [files.chain_kept chain (spared place there), dotenv]
    · simp [events, past]
    · exact List.forall_mem_append.mpr ⟨quiet, still⟩

theorem closed_coherent (p : Plan) (text : σ → String → Option String) :
    Closed (Keeps (Coherent p text : Bench (Chronicle σ Session) → Prop)) :=
  closed_keeps fun _ _ h => h.of_same rfl rfl rfl

theorem coherent_of_follows (files : FileView B text) {w : Work (Chronicle σ Session) α}
    (follows : Follows p B.watched (fun e => e.isDatabase = true) w)
    (website : ∀ b, (w b).2.fixture.website = b.fixture.website)
    (dictionary : ∀ b, (w b).2.fixture.environment = b.fixture.environment) :
    Keeps (Coherent p text) w := by
  intro b h
  obtain ⟨es, course, chain, events, database⟩ := follows.watched b
  exact h.spared files (website b) (dictionary b) chain events
    (fun place _ e he => spares_of_isDatabase (database e he) place)
    fun e he => Event.not_isDirectory_of_isDatabase (database e he)

theorem coherent_act (files : FileView B text) {a : Action (Chronicle σ Session) α}
    (event : Except Failure α → Event Session)
    (happens : ∀ w, B.watched.Happens w (event (a w).1) (a w).2)
    (database : ∀ x, (event x).isDatabase = true) : Keeps (Coherent p text) (act a) := by
  have follows : Follows p B.watched (fun e => e.isDatabase = true) (act a) :=
    follows_act event happens fun x => ⟨Event.isPlain_of_isDatabase (database x), database x⟩
  exact coherent_of_follows files follows (fun _ => rfl) fun _ => rfl

theorem coherent_runScript (files : FileView B text) (script : Script.Name)
    (args : Script.Arguments) : Keeps (Coherent p text) (runScript p B.watched script args) := by
  intro b h
  obtain ⟨state, run, ran, events, chain⟩ := runScript_watched (p := p) (B := B) script args b
  refine h.spared files (by rw [state]) (by rw [state]) chain events ?_ (ran.forall fun _ => rfl)
  intro place there
  exact ran.forall fun _ => by simp [Spares, Plan.invocation, there]

theorem coherent_importNothing (files : FileView B text) :
    Keeps (Coherent p text) (importNothing p B.watched) := by
  intro b h
  have done : (importNothing p B.watched).Gives b _ :=
    (importNothing_imported b).and (follows_importNothing.watched b)
  refine done.mono (Q := fun _ => Coherent p text) ?_
  rintro r b' ⟨imported, es, -, chain, noted, -⟩
  have same := imported.state
  have named {osm rest w} (first : B.Chain b.world.world
      (.madeFile osmStem osmEnding (.ok osm) :: rest) w) : ∃ front, osm = front ++ osmEnding := by
    obtain _ | ⟨made, -⟩ := first
    exact files.ending made
  refine h.spared files (by rw [same]) (by rw [same]) chain noted ?_ ?_
  · intro place there
    cases imported with
    | noFile _ events =>
      obtain rfl := List.append_cancel_left (events.symm.trans noted)
      simp [Spares]
    | notWritten _ events =>
      obtain rfl := List.append_cancel_left (events.symm.trans noted)
      simpa [Spares] using named chain
    | ran _ events _ ran =>
      obtain rfl := List.append_cancel_left (events.symm.trans noted)
      obtain ⟨front, rfl⟩ := named chain
      refine List.forall_mem_append.mpr ⟨by simp [Spares], List.forall_mem_append.mpr ⟨?_, ?_⟩⟩
      · exact ran.forall fun _ => by simp [Spares, Plan.invocation, there]
      · simp [Spares]
  · cases imported with
    | noFile _ events | notWritten _ events =>
      obtain rfl := List.append_cancel_left (events.symm.trans noted)
      simp [Event.isDirectory]
    | ran _ events _ ran =>
      obtain rfl := List.append_cancel_left (events.symm.trans noted)
      refine List.forall_mem_append.mpr ⟨by simp [Event.isDirectory], ?_⟩
      exact List.forall_mem_append.mpr ⟨ran.forall fun _ => rfl, by simp [Event.isDirectory]⟩

/-- Once it was written, the fixture is at home for the database. -/
theorem Written.resides (files : FileView B text) {database : String}
    {b b' : Bench (Chronicle σ Session)} {es : List (Event Session)}
    (written : Written p B database b (.ok ()) b')
    (other : b.fixture.pointsAt (p.config.connection.dsn database) = false)
    (chain : B.Chain b.world.world es b'.world.world)
    (noted : b'.world.events = b.world.events ++ es) :
    ∃ website, Resides p text website database b' := by
  cases written with
  | unchanged same => cases same.symm.trans other
  | @setUp website _ _ state events =>
    obtain rfl := List.append_cancel_left (events.symm.trans noted)
    have movedIn : MovedIn p website database b'.world.events :=
      ⟨b.world.events ++ leaving b.fixture, [], by simp [events], nofun⟩
    refine ⟨website, by rw [state]; rfl, by rw [state]; rfl, ?_, movedIn⟩
    obtain ⟨w₁, -, rest⟩ := chain.of_append
    obtain ⟨w₃, wrote, ran⟩ := rest.of_append
    obtain _ | ⟨-, _ | ⟨wrote, _ | _⟩⟩ := wrote
    rw [files.chain_kept ran (by simp [Spares, Plan.setupRun])]
    exact files.wrote wrote

theorem coherent_writeConfig (files : FileView B text) (database : String) :
    Keeps (Coherent p text) (writeConfig p B.watched database) := by
  intro b h
  have done : (writeConfig p B.watched database).Gives b _ :=
    (writeConfig_written database b).and ((follows_writeConfig database).watched b)
  refine done.mono (Q := fun _ => Coherent p text) ?_
  rintro r b' ⟨written, es, course, chain, noted, -⟩
  refine ⟨course.configured h.configured, fun place there => ?_⟩
  cases r with
  | error e => cases written.homeless.symm.trans there
  | ok _ =>
    cases same : b.fixture.pointsAt (p.config.connection.dsn database) with
    | false =>
      obtain ⟨website, resides⟩ := written.resides files same chain noted
      obtain rfl := Option.some.inj (resides.here.symm.trans there)
      exact ⟨database, resides⟩
    | true =>
      cases written with
      | unchanged same =>
        obtain ⟨database, resides⟩ := h.resides place there
        exact ⟨database, resides.of_same rfl rfl rfl⟩
      | setUp other => cases same.symm.trans other

theorem coherent_perform (files : FileView B text) (op : Operation Session) :
    Keeps (Coherent p text) (op.perform p B.watched) := by
  refine closed_perform_server (closed_coherent p text) (coherent_act files) op
    (fun _ _ h => h.of_same rfl rfl rfl) (fun _ h => h.of_same rfl rfl rfl)
    (coherent_writeConfig files) (coherent_runScript files) (coherent_importNothing files)
    (fun s => ?_) (fun _ => keeps_nextCoverageFile fun _ _ h => h.of_same rfl rfl rfl)
  exact coherent_of_follows files (follows_change (.closed s) (fun _ => rfl) rfl rfl)
    (fun _ => rfl) fun _ => rfl

/-- What writing a configuration comes to, with the events `es`. -/
structure Rewritten (p : Plan) (text : σ → String → Option String) (database : String)
    (b : Bench (Chronicle σ Session)) (es : List (Event Session)) (r : Except Failure Unit)
    (b' : Bench (Chronicle σ Session)) : Prop where
  /-- It is idle if and only if the fixture is at home for the database. -/
  idle_iff : (r = .ok () ∧ b'.fixture = b.fixture ∧ ∀ e ∈ es, e.script? = none) ↔
    b.fixture.AtHome p database
  idle : b.fixture.AtHome p database → b'.world = b.world
  once : (es.filterMap Event.script?).length ≤ 1
  ok : r = .ok () → ∃ website, Resides p text website database b'
  error : ∀ e, r = .error e → b'.fixture.website = none

/-- Every script among the events runs with the variables and in the website of the state that the
fixture is in by then. The events before tell what that state is. -/
def RunsAtHome (p : Plan) (B : Backend σ Session) (b : Bench σ) (es : List (Event Session))
    (b' : Bench σ) : Prop :=
  ∀ pre i answer post, es = pre ++ .ranScript i answer :: post →
    ∃ m m', Course p B b pre m ∧ Course p B m' post b' ∧ m'.fixture = m.fixture ∧
      i.environment = m.fixture.childVariables ∧
      i.directory = m.fixture.website.getD p.config.buildDirectory ∧
      m.fixture.website = pre.foldl homeAfter b.fixture.website ∧
      m.fixture.environment.map Dotenv.render =
        dotenvAfter (b.fixture.environment.map Dotenv.render) pre

theorem Course.runsAtHome {b b' : Bench σ} {es : List (Event Session)} (h : Course p B b es b') :
    RunsAtHome p B b es b' := by
  rintro pre i answer post rfl
  obtain ⟨m, m', before, after, dictionary, directory, same⟩ := h.script
  exact ⟨m, m', before, after, same, dictionary, directory, before.website, before.dotenv⟩

theorem writeConfig_rewritten (files : FileView B text) (database : String)
    {b : Bench (Chronicle σ Session)} (h : Coherent p text b) :
    (writeConfig p B.watched database).Gives b fun r b' =>
      ∃ es, b'.world.events = b.world.events ++ es ∧ Rewritten p text database b es r b' := by
  refine Gives.mono ((writeConfig_written database b).and
    ((follows_writeConfig database).watched b)) ?_
  rintro r b' ⟨written, es, course, chain, noted, -⟩
  refine ⟨es, noted, ?_⟩
  have home := State.pointsAt_iff h.configured database
  have away (other : b.fixture.pointsAt (p.config.connection.dsn database) = false) :
      ¬ b.fixture.AtHome p database :=
    fun at_ => Bool.false_ne_true (other.symm.trans (home.mpr at_))
  have scripts (fs : List (Event Session)) :
      (leaving b.fixture ++ fs).filterMap Event.script? = fs.filterMap Event.script? := by
    unfold leaving
    cases b.fixture.website <;> rfl
  have failed {e : Failure} (not : ¬ b.fixture.AtHome p database)
      (homeless : b'.fixture.website = none) (once : (es.filterMap Event.script?).length ≤ 1) :
      Rewritten p text database b es (.error e) b' :=
    ⟨by simp [not], fun at_ => (not at_).elim, once, nofun, fun _ _ => homeless⟩
  cases written with
  | unchanged same =>
    obtain rfl : es = [] := by simpa using noted
    have at_ := home.mp same
    refine ⟨⟨fun _ => at_, fun _ => ⟨rfl, rfl, nofun⟩⟩, fun _ => rfl, Nat.zero_le _, fun _ => ?_,
      nofun⟩
    obtain ⟨website, here⟩ := Option.isSome_iff_exists.mp at_.1
    obtain ⟨own, resides⟩ := h.resides website here
    obtain rfl := p.variablesOf_injective (Option.some.inj (resides.environment.symm.trans at_.2))
    exact ⟨website, resides.of_same rfl rfl rfl⟩
  | noDirectory other state events =>
    obtain rfl := List.append_cancel_left (events.symm.trans noted)
    exact failed (away other) (by rw [state]; rfl) (by rw [scripts]; exact Nat.zero_le 1)
  | noDotenv other state events =>
    obtain rfl := List.append_cancel_left (events.symm.trans noted)
    exact failed (away other) (by rw [state]; rfl) (by rw [scripts]; exact Nat.zero_le 1)
  | notSetUp other state events _ ran =>
    obtain rfl := List.append_cancel_left (events.symm.trans noted)
    refine failed (away other) (by rw [state]; rfl) ?_
    rw [scripts]
    cases ran with
    | lost => exact Nat.zero_le 1
    | failed => exact Nat.le_refl 1
  | setUp other state events =>
    have resides := (Written.setUp other state events).resides files other chain noted
    obtain rfl := List.append_cancel_left (events.symm.trans noted)
    refine ⟨⟨fun ⟨_, _, silent⟩ => ?_, fun at_ => (away other at_).elim⟩,
      fun at_ => (away other at_).elim, by rw [scripts]; exact Nat.le_refl 1, fun _ => resides,
      nofun⟩
    cases silent _ (List.mem_append_right _ (List.mem_append_right _ (.head _)))

end Testbed.Fixture

namespace Testbed.PlainWorld

open Fixture

theorem dotenvFile_ne (website front : String) : dotenvFile website ≠ front ++ osmEnding := by
  have ending : ∃ start, dotenvFile website = start ++ ".env" := by
    unfold dotenvFile Path.join
    split
    · exact ⟨"", rfl⟩
    · split
      · exact ⟨"", rfl⟩
      · exact ⟨website, rfl⟩
      · exact ⟨website ++ "/", rfl⟩
  obtain ⟨start, ending⟩ := ending
  intro same
  have last := congrArg (·.toList.getLast?) (ending.symm.trans same)
  simp [osmEnding] at last

theorem fileView : FileView backend text where
  wrote {path content w w'} h := by
    simp only [backend, stage] at h
    obtain ⟨rest, answer⟩ := request_ok h
    obtain ⟨-, rfl⟩ := Prod.mk.inj answer
    simp [text]
  ending {stem ending path w w'} h := by
    simp only [backend, stage] at h
    obtain ⟨rest, answer⟩ := request_ok h
    obtain ⟨made, -⟩ := Prod.mk.inj answer
    exact ⟨_, (Except.ok.inj made).symm⟩
  kept {website e w w'} happens spares := by
    have keeps {ε α : Type} {trouble : ε} {answer : PlainWorld → Except ε α × PlainWorld}
        {r : Except ε α} (h : request trouble answer w = (r, w'))
        (same : ∀ rest, text (answer { w with troubles := rest }).2 (dotenvFile website) =
          text w (dotenvFile website)) :
        text w' (dotenvFile website) = text w (dotenvFile website) :=
      request_keeps (P := fun w' => text w' (dotenvFile website) = text w (dotenvFile website)) h
        (fun _ => rfl) same
    have put {path content : String} (h : ∃ front, path = front ++ osmEnding) :
        ((path, content) :: w.files).find? (·.1 = dotenvFile website) =
          w.files.find? (·.1 = dotenvFile website) := by
      obtain ⟨front, rfl⟩ := h
      have := (dotenvFile_ne website front).symm
      simp [this]
    cases e <;> simp only [Backend.Happens, backend, stage] at happens
    case lookedUp | dropped | truncated | opened | madeDirectory => exact keeps happens fun _ => rfl
    case created => exact keeps happens fun _ => by split <;> rfl
    case ranScript i answer =>
      obtain ⟨records, ran⟩ := happens
      exact keeps (request_of_runScript ran) fun _ => by simp [text]
    case madeFile stem ending answer =>
      obtain rfl : ending = osmEnding := spares
      exact keeps happens fun _ => congrArg (Option.map Prod.snd) (put ⟨_, rfl⟩)
    case wrote => exact keeps happens fun _ => congrArg (Option.map Prod.snd) (put spares)
    case removedFile path =>
      obtain ⟨front, rfl⟩ := spares
      subst happens
      simp only [text, List.find?_filter]
      congr 2
      funext file
      have := dotenvFile_ne website front
      by_cases same : file.1 = dotenvFile website <;> simp [same, this]
    case closed => exact happens ▸ rfl
    case removedDirectory => cases spares

end Testbed.PlainWorld

namespace Testbed.Fixture

open Work

variable {σ Session : Type} {p : Plan} {B : Backend σ Session}
  {text : σ → String → Option String}

/-- After every run, and whatever failed in it, the fixture is at home if it has a website. A
configuration is not written again where it is in force, and otherwise it is in force afterwards or
there is no website. All scripts run at home. -/
theorem website_coherent (files : FileView B text) (ops : List (Operation Session)) (w : σ) :
    let b := (Operation.run p B.watched ops { world := { world := w } }).2
    Coherent p text b ∧
    (∀ x y, p.config.connection.dsn x = p.config.connection.dsn y → x = y) ∧
    (∀ database, (writeConfig p B.watched database).Gives b fun r b' =>
      ∃ es, b'.world.events = b.world.events ++ es ∧ Rewritten p text database b es r b') ∧
    ∀ op : Operation Session, (op.perform p B.watched).Gives b fun _ b' =>
      ∃ es, b'.world.events = b.world.events ++ es ∧ RunsAtHome p B.watched b es b' := by
  intro b
  have coherent : Coherent p text b :=
    Operation.run_keeps (fun op _ => coherent_perform files op) ⟨nofun, nofun⟩
  refine ⟨coherent, fun x y => p.config.connection.dsn_injective,
    fun database => writeConfig_rewritten files database coherent, fun op => ?_⟩
  refine ((op.follows p B.watched).watched b).mono ?_
  rintro _ b' ⟨es, course, -, noted, -⟩
  exact ⟨es, noted, course.runsAtHome⟩

/-- The first script fails, and the fixture is at home in the second website. From there it moves to
a third, or runs a script. -/
theorem website_coherent_after_failure :
    let B := PlainWorld.backend.watched
    let b := (Operation.run PlainWorld.plan B [.setupApiDatabase, .setupUnknownDatabase]
      { world := { world := { troubles := [false, false, true] } } }).2
    (∃ database, Resides PlainWorld.plan PlainWorld.text "/tmp/geofixture-website-1" database b) ∧
    ((writeConfig PlainWorld.plan B "more").Gives b fun r b' =>
      r = .ok () ∧ b'.world.events.length = b.world.events.length + 4 ∧
        ∃ es, b'.world.events = b.world.events ++ es ∧
          Rewritten PlainWorld.plan PlainWorld.text "more" b es r b') ∧
    ((Operation.runScript .update {}).perform PlainWorld.plan B).Gives b fun _ b' =>
      b'.world.events.length = b.world.events.length + 1 ∧
        ∃ es, b'.world.events = b.world.events ++ es ∧ RunsAtHome PlainWorld.plan B b es b' := by
  obtain ⟨coherent, -, rewritten, atHome⟩ := website_coherent (p := PlainWorld.plan)
    PlainWorld.fileView [.setupApiDatabase, .setupUnknownDatabase]
    { troubles := [false, false, true] }
  refine ⟨coherent.resides _ (by decide +kernel), ⟨eq_ok_of_isOk (by decide +kernel), ?_,
    rewritten "more"⟩, ?_, atHome (.runScript .update {})⟩
  · decide +kernel
  · decide +kernel

end Testbed.Fixture
