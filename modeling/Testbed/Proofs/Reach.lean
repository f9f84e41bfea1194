import Testbed.Program
import Testbed.Proofs.Pieces
import Testbed.Proofs.Resolution
import Testbed.Proofs.ScriptTokens
import Testbed.Proofs.Traffic

/-!
# What each command reaches

A command with bad arguments makes no contact at all. Of the others each has its own databases, and
those that only point the application at a database do not reach the server. Databases are dropped
and made over connections to the maintenance database only.
-/

namespace Testbed

namespace Sql

/-- The text begins as one that drops or makes something does. -/
def IsAdministrative (text : String) : Prop :=
  "DROP".toList <+: text.toList ∨ "CREATE".toList <+: text.toList

instance (text : String) : Decidable (IsAdministrative text) :=
  inferInstanceAs (Decidable ("DROP".toList <+: text.toList ∨ "CREATE".toList <+: text.toList))

/-- What comes after the first word does not matter. -/
theorem isAdministrative_append (front back : String) (long : 6 ≤ front.toList.length) :
    IsAdministrative (front ++ back) ↔ IsAdministrative front := by
  have within {word : List Char} (short : word.length ≤ 6) :
      word <+: (front ++ back).toList ↔ word <+: front.toList := by
    rw [String.toList_append]
    constructor
    · intro h
      exact List.prefix_of_prefix_length_le h (List.prefix_append _ _) (Nat.le_trans short long)
    · exact fun h => h.trans (List.prefix_append _ _)
  exact or_congr (within (by decide)) (within (by decide))

/-- Nothing but databases is dropped or made. -/
theorem isAdministrative_text_iff {s : Statement} : IsAdministrative s.text ↔
    (∃ name, s = .dropDatabase name) ∨ ∃ name template, s = .createDatabase name template := by
  cases s with
  | dropDatabase name =>
    have drops : IsAdministrative ("DROP DATABASE IF EXISTS " ++ identifier name) :=
      (isAdministrative_append _ _ (by decide)).mpr (by decide)
    exact iff_of_true drops (.inl ⟨name, rfl⟩)
  | createDatabase name template =>
    have creates : IsAdministrative
        ("CREATE DATABASE " ++ identifier name ++ " TEMPLATE = " ++ identifier template) := by
      rw [String.append_assoc, String.append_assoc]
      exact (isAdministrative_append _ _ (by decide)).mpr (by decide)
    exact iff_of_true creates (.inr ⟨name, template, rfl⟩)
  | truncateTable name =>
    have truncates : ¬ IsAdministrative ("TRUNCATE TABLE " ++ identifier name) := by
      rw [isAdministrative_append _ _ (by decide)]
      decide
    exact iff_of_false truncates nofun
  | begin | commit | rollback => exact iff_of_false (by decide) (by simp)

end Sql

namespace Command

/-- There is nothing to do, or a token is bad. -/
def Rejected : Command → Prop
  | .runScript _ _ tokens => tokens = [] ∨ ∃ token ∈ tokens, Script.BadToken token
  | .scenario _ _ command => command = []
  | .dropDatabase name => name = ""
  | .setupTemplate | .setupDatabase | .teardownDatabase | .writeConfig _ => False

theorem rejection?_iff {c : Command} : (∃ e, c.rejection? = some e) ↔ c.Rejected := by
  cases c with
  | setupTemplate | setupDatabase | teardownDatabase | writeConfig => simp [rejection?, Rejected]
  | dropDatabase name => by_cases h : name = "" <;> simp [rejection?, Rejected, h]
  | scenario target directory command => cases command <;> simp [rejection?, Rejected]
  | runScript script target tokens =>
    simp only [rejection?, Rejected]
    rw [← Script.Arguments.ofTokens_fails_iff]
    cases tokens with
    | nil => simp
    | cons token tokens => cases Script.Arguments.ofTokens (token :: tokens) <;> simp

/-- What is rejected is done with before anything happens. -/
theorem run_of_rejected {σ Session : Type} {S : Stage σ Session} {config : Config}
    {workingDirectory : String} {c : Command} (rejected : c.Rejected) :
    ∃ e, ∀ b, run S config workingDirectory c b = (.error e, b) := by
  obtain ⟨e, rejection⟩ := rejection?_iff.mpr rejected
  refine ⟨e, fun b => ?_⟩
  have refused : c.refusal? S b.world = some e := by rw [refusal?, rejection, Option.some_or]
  rw [run, Work.bind_apply, Work.look_apply, refused]
  rfl

/-! ## What a command asks the server -/

open Connection (Resolved)
open Fixture Live Work

def Requests {Session : Type} (p : Plan) : Command → Event Session → Prop
  | .setupTemplate, e => Preparing p e
  | .setupDatabase, e => Preparing p e ∨ Copying p e
  | .teardownDatabase, e => Clearing p none e
  | .dropDatabase name, .dropped name' _ => name' = name
  | .scenario .test _ _, e => (Preparing p e ∨ Copying p e) ∨ ∃ session, Clearing p session e
  | _, _ => False

theorem MakesDatabase.requests {Session : Type} {p : Plan} {c : Command} {e : Event Session}
    (makes : c.MakesDatabase) (h : Preparing p e ∨ Copying p e) : c.Requests p e := by
  match c, makes with
  | .setupDatabase, _ => exact h
  | .scenario .test directory command, _ => exact .inl h

variable {σ Client α : Type} {S : System σ Client} {params : Connection.Params} {p : Plan}
  {c : Command} {Φ : Contact → Prop}

section Contacts

variable (free : ∀ contact : Contact, contact.isServer = false → Φ contact)

include free

theorem brings_quiet {e : Event (Client × Resolved)} (quiet : e.isDatabase = false) :
    Brings Φ e := by
  cases e with
  | lookedUp | dropped | created | truncated | opened | closed => cases quiet
  | wrote | removedDirectory | removedFile => trivial
  | ranScript | ranCommand | madeDirectory | madeFile => exact free _ rfl

/-- Only requests to the server have to be allowed. -/
theorem only_requests {Ψ : Event (Client × Resolved) → Prop} {work : Work (Traffic σ) α}
    (follows : Follows p (stage S.observed params).toBackend Ψ work)
    (allowed : ∀ e, Ψ e → e.isDatabase = true → Brings Φ e) : Keeps (InWorld (Only Φ)) work := by
  refine only_follows follows fun e h => ?_
  cases database : e.isDatabase with
  | true => exact allowed e h database
  | false => exact brings_quiet free database

theorem only_settling {work : Work (Traffic σ) α}
    (follows : Follows p (stage S.observed params).toBackend (Settling p) work) :
    Keeps (InWorld (Only Φ)) work :=
  only_requests free follows fun e h database => by
    rw [settling_isDatabase h] at database
    cases database

theorem only_leaveWebsite (p : Plan) :
    Keeps (InWorld (Only Φ)) (leaveWebsite (stage S.observed params).toBackend) :=
  only_settling free (follows_leaveWebsite (p := p))

/-- A command makes the contacts only to which its requests can come down. -/
theorem only_perform (allowed : ∀ e : Event (Client × Resolved), c.Requests p e →
      e.isDatabase = true → Brings Φ e) :
    Keeps (InWorld (Only Φ)) (c.perform p (stage S.observed params)) := by
  apply closed_perform (closed_inWorld (Only Φ))
  case write => exact fun database => only_settling free (follows_writeConfig database)
  case template =>
    rintro rfl
    exact only_requests free follows_setupTemplate allowed
  case fresh =>
    exact fun makes => only_requests free follows_setupDatabase fun e h =>
      allowed e (makes.requests h)
  case leave => exact fun session b before => before
  case clear =>
    rintro rfl
    exact only_requests free (follows_teardown none) allowed
  case remove =>
    rintro directory command rfl session
    exact only_requests free (follows_teardown _) fun e h => allowed e (.inr ⟨session, h⟩)
  case drop =>
    rintro name rfl
    refine only_requests (p := p) free (Ψ := fun e => ∃ answer, e = .dropped name answer)
      (follows_drop fun answer => ⟨answer, rfl⟩) ?_
    rintro _ ⟨answer, rfl⟩ database
    exact allowed _ rfl database
  case script =>
    rintro script target tokens args rfl -
    refine only_requests free (Ψ := fun e => e.isDatabase = false)
      (follows_runScript fun _ _ _ => rfl) fun e quiet database => ?_
    cases quiet.symm.trans database
  case number => exact keeps_nextCoverageFile fun _ _ h => h
  case played =>
    exact fun _ _ _ _ _ _ => closed_play (closed_inWorld _) fun _ before =>
      only_runCommand (free _ rfl) before

end Contacts

/-- A command that is not rejected makes the contacts only to which its requests can come down. -/
theorem only_run {workingDirectory : String}
    (free : ∀ contact : Contact, contact.isServer = false → Φ contact)
    (planned : Plan.ofConfig p.config workingDirectory = .ok p)
    (allowed : ∀ e : Event (Client × Resolved), c.Requests p e → e.isDatabase = true → Brings Φ e) :
    Keeps (InWorld (Only Φ)) (run (stage S.observed params) p.config workingDirectory c) :=
  closed_run (closed_inWorld (Only Φ)) planned (only_perform free allowed)
    (only_leaveWebsite free p)

/-! ## Databases -/

/-- Of the databases only some are dropped and made, over connections to the maintenance
database. -/
def Maintains (drops : String → Prop) (creates : String → String → Prop) : Contact → Prop
  | .executed target (.dropDatabase name) => drops name ∧ target.database = maintenanceDatabase
  | .executed target (.createDatabase name template) =>
    creates name template ∧ target.database = maintenanceDatabase
  | _ => True

section Databases

variable {drops : String → Prop} {creates : String → String → Prop} {cs : List Contact}

theorem maintains_free (contact : Contact) (h : contact.isServer = false) :
    Maintains drops creates contact := by
  cases contact <;> trivial

theorem brings_maintains {e : Event (Client × Resolved)}
    (dropped : ∀ name answer, e = .dropped name answer → drops name)
    (created : ∀ name template answer, e = .created name template answer → creates name template) :
    Brings (Maintains drops creates) e := by
  cases e with
  | lookedUp name answer => exact fun _ _ => ⟨trivial, trivial⟩
  | dropped name answer => exact fun t same => ⟨trivial, dropped name answer rfl, same⟩
  | created name template answer =>
    exact fun t same => ⟨trivial, created name template answer rfl, same⟩
  | truncated database names answer =>
    refine fun t _ => ⟨trivial, trivial, fun s emptying => ?_⟩
    cases s <;> trivial
  | opened => exact fun _ _ => trivial
  | _ => trivial

/-- Which databases are dropped and made, read off the statements. -/
theorem statements_of_maintains (h : ∀ c ∈ cs, Maintains drops creates c) :
    (∀ name, .dropDatabase name ∈ statements cs → drops name) ∧
      ∀ name template, .createDatabase name template ∈ statements cs → creates name template := by
  have sent {s : Sql.Statement} (mem : s ∈ statements cs) : ∃ t, .executed t s ∈ cs := by
    obtain ⟨contact, noted, same⟩ := List.mem_filterMap.mp mem
    cases contact with
    | executed t statement =>
      obtain rfl := Option.some.inj same
      exact ⟨t, noted⟩
    | _ => cases same
  constructor
  · intro name mem
    obtain ⟨t, mem⟩ := sent mem
    exact (h _ mem).1
  · intro name template mem
    obtain ⟨t, mem⟩ := sent mem
    exact (h _ mem).1

end Databases

/-! ## Dropping one database -/

section Dropping

variable {b : Bench (Traffic σ)} {workingDirectory : String}

/-- The contacts of dropping a database, as far as they get: a connection to the maintenance
database, and one statement over it. -/
def Drops (name : String) (cs : List Contact) : Prop :=
  cs = [] ∨ ∃ target, target.database = maintenanceDatabase ∧
    (cs = [.connected target] ∨ cs = [.connected target, .executed target (.dropDatabase name)])

/-- There were no other contacts since. -/
def DropsSince (name : String) (t t' : Traffic σ) : Prop :=
  ∃ cs, t'.contacts = t.contacts ++ cs ∧ Drops name cs

theorem dropDatabase_drops (name : String) (t : Traffic σ) :
    DropsSince name t (Live.dropDatabase S.observed params name t).2 := by
  unfold Live.dropDatabase withClient connect
  cases resolved : params.resolve (S.observed.environment t) maintenanceDatabase with
  | error fault => exact ⟨[], (List.append_nil _).symm, .inl rfl⟩
  | ok target =>
    have maintenance := resolve_database resolved
    have asked : asking (.connect maintenanceDatabase) (S.observed.connect target) t =
        (((S.connect target t.world).1.map (·, target)).mapError
            (.server (.connect maintenanceDatabase)),
          ⟨(S.connect target t.world).2, t.contacts ++ [.connected target]⟩) := rfl
    dsimp only
    rw [asked]
    cases (S.connect target t.world).1 with
    | error fault => exact ⟨[.connected target], rfl, .inr ⟨target, maintenance, .inl rfl⟩⟩
    | ok client =>
      refine ⟨[.connected target, .executed target (.dropDatabase name)], ?_,
        .inr ⟨target, maintenance, .inr rfl⟩⟩
      exact (List.append_cons t.contacts _ _).symm

theorem leaveWebsite_contacts (b : Bench (Traffic σ)) :
    (leaveWebsite (stage S.observed params).toBackend b).2.world.contacts = b.world.contacts := by
  rw [leaveWebsite_apply]
  cases b.fixture.website <;> rfl

/-- All contacts of a command are made while it is performed. -/
theorem run_contacts (planned : Plan.ofConfig p.config workingDirectory = .ok p)
    (accepted : c.refusal? (stage S.observed params) b.world = none) :
    (run (stage S.observed params) p.config workingDirectory c b).2.world.contacts =
      (c.perform p (stage S.observed params) b).2.world.contacts := by
  unfold run
  rw [bind_apply, look_apply, accepted, planned]
  exact leaveWebsite_contacts _

theorem run_dropDatabase_drops (planned : Plan.ofConfig p.config workingDirectory = .ok p)
    {name : String} (given : name ≠ "") : DropsSince name b.world
      (run (stage S.observed params) p.config workingDirectory (.dropDatabase name) b).2.world := by
  have accepted : (Command.dropDatabase name).refusal? (stage S.observed params) b.world = none :=
    by simp [refusal?, isLocal, rejection?, given]
  have performed : (perform p (stage S.observed params) (.dropDatabase name) b).2 =
      (Fixture.dropDatabase (stage S.observed params).toBackend name b).2 :=
    bind_pure_snd _ (fun _ => "") b
  have dropped : DropsSince name b.world
      (Live.dropDatabase S.observed params name b.world).2 := dropDatabase_drops name b.world
  unfold DropsSince
  rw [run_contacts planned accepted, performed]
  exact dropped

theorem run_teardown_drops (planned : Plan.ofConfig p.config workingDirectory = .ok p) :
    let out := run (stage S.observed params) p.config workingDirectory .teardownDatabase b
    DropsSince p.config.testDatabase b.world out.2.world ∧
      (p.config.keepTestDatabase = true → out.2.world.contacts = b.world.contacts) := by
  intro out
  unfold DropsSince out
  rw [run_contacts planned rfl]
  have torn : (perform p (stage S.observed params) .teardownDatabase b).2 =
      (teardown p (stage S.observed params).toBackend none b).2 :=
    bind_pure_snd _ (fun _ => "") b
  rw [torn]
  cases keep : p.config.keepTestDatabase with
  | true =>
    have kept : (teardown p (stage S.observed params).toBackend none b).2.world = b.world := by
      unfold teardown
      rw [keep]
      rfl
    rw [kept]
    exact ⟨⟨[], (List.append_nil _).symm, .inl rfl⟩, fun _ => rfl⟩
  | false =>
    have dropped : (teardown p (stage S.observed params).toBackend none b).2.world =
        (Live.dropDatabase S.observed params p.config.testDatabase b.world).2 := by
      unfold teardown
      rw [keep]
      rfl
    rw [dropped]
    exact ⟨dropDatabase_drops _ _, nofun⟩

end Dropping

/-! ## The reach of a command -/

/-- What a command with the configuration may do on the server. -/
def Reaches (config : Config) : Command → List Contact → Prop
  | .writeConfig _, cs | .runScript .., cs => ∀ c ∈ cs, c.isServer = false
  | .teardownDatabase, cs =>
    Drops config.testDatabase cs ∧ (config.keepTestDatabase = true → cs = [])
  | .dropDatabase name, cs => Drops name cs
  | .setupTemplate, cs =>
    (∀ name, .dropDatabase name ∈ statements cs → name = config.templateDatabase) ∧
      ∀ name template, .createDatabase name template ∉ statements cs
  | .setupDatabase, cs =>
    (∀ name, .dropDatabase name ∈ statements cs →
      name = config.templateDatabase ∨ name = config.testDatabase) ∧
      ∀ name template, .createDatabase name template ∈ statements cs →
        name = config.testDatabase ∧ template = config.templateDatabase
  | .scenario target _ _, cs =>
    (target ≠ .test → ∀ c ∈ cs, c.isServer = false) ∧
      (∀ name, .dropDatabase name ∈ statements cs →
        name = config.templateDatabase ∨ name = config.testDatabase) ∧
      ∀ name template, .createDatabase name template ∈ statements cs →
        name = config.testDatabase ∧ template = config.templateDatabase

section Reach

variable {w : σ} {workingDirectory : String}

/-- Preparing a template drops no other database. -/
theorem dropped_of_preparing {name : String} {answer : Except Failure Unit}
    (h : Preparing p (.dropped name answer : Event (Client × Resolved))) :
    name = p.config.templateDatabase := by
  rcases h with (settling | filling) | same
  · cases settling
  · cases filling
  · exact same

/-- Preparing a template makes no database from another. -/
theorem not_preparing_created {name template : String} {answer : Except Failure Unit} :
    ¬ Preparing p (.created name template answer : Event (Client × Resolved)) := by
  rintro ((settling | filling) | made)
  · cases settling
  · cases filling
  · cases made

theorem preparing_maintains {e : Event (Client × Resolved)} (h : Preparing p e) :
    Brings (Maintains (· = p.config.templateDatabase) fun _ _ => False) e := by
  apply brings_maintains
  · rintro name answer rfl
    exact dropped_of_preparing h
  · rintro name template answer rfl
    exact not_preparing_created h

/-- Making a fresh database drops no other one, except for the template. -/
theorem copying_maintains {e : Event (Client × Resolved)} (h : Preparing p e ∨ Copying p e) :
    Brings (Maintains
      (fun name => name = p.config.templateDatabase ∨ name = p.config.testDatabase)
      fun name template => name = p.config.testDatabase ∧ template = p.config.templateDatabase)
      e := by
  apply brings_maintains
  · rintro name answer rfl
    rcases h with preparing | same
    · exact .inl (dropped_of_preparing preparing)
    · exact .inr same
  · rintro name template answer rfl
    rcases h with preparing | same
    · exact absurd preparing not_preparing_created
    · exact same

theorem clearing_maintains {e : Event (Client × Resolved)} {session : Option (Client × Resolved)}
    {drops : String → Prop} {creates : String → String → Prop}
    (allowed : drops p.config.testDatabase) (h : Clearing p session e) :
    Brings (Maintains drops creates) e := by
  apply brings_maintains
  · rintro name answer rfl
    exact h.1 ▸ allowed
  · rintro name template answer rfl
    cases h

/-- What is allowed of the requests of a command is true of its contacts. -/
theorem contacts_of_run {Φ : Contact → Prop}
    (free : ∀ contact : Contact, contact.isServer = false → Φ contact)
    (planned : Plan.ofConfig p.config workingDirectory = .ok p)
    (allowed : ∀ e : Event (Client × Resolved), c.Requests p e → e.isDatabase = true → Brings Φ e) :
    ∀ contact ∈ (run (stage S.observed params) p.config workingDirectory c
      { world := { world := w } }).2.world.contacts, Φ contact :=
  only_run free planned allowed { world := { world := w } } nofun

theorem reaches_run (planned : Plan.ofConfig p.config workingDirectory = .ok p)
    (accepted : ¬ c.Rejected) :
    c.Reaches p.config (run (stage S.observed params) p.config workingDirectory c
      { world := { world := w } }).2.world.contacts := by
  cases c with
  | writeConfig | runScript => exact contacts_of_run (fun _ h => h) planned nofun
  | teardownDatabase =>
    obtain ⟨⟨cs, same, drops⟩, kept⟩ := run_teardown_drops (S := S) planned
    exact ⟨by rwa [same], kept⟩
  | dropDatabase name =>
    obtain ⟨cs, same, drops⟩ := run_dropDatabase_drops (S := S) planned accepted
    unfold Reaches
    rwa [same]
  | setupTemplate =>
    exact statements_of_maintains (contacts_of_run maintains_free planned
      fun e h _ => preparing_maintains h)
  | setupDatabase =>
    exact statements_of_maintains (contacts_of_run maintains_free planned
      fun e h _ => copying_maintains h)
  | scenario target directory command =>
    refine ⟨fun other => ?_, statements_of_maintains (contacts_of_run maintains_free planned ?_)⟩
    · refine contacts_of_run (fun _ h => h) planned fun e requests => ?_
      cases target with
      | test => exact absurd rfl other
      | api | unknown | named => cases requests
    · intro e requests _
      cases target with
      | test =>
        rcases requests with copying | ⟨session, clears⟩
        · exact copying_maintains copying
        · exact clearing_maintains (.inr rfl) clears
      | api | unknown | named => cases requests

end Reach

end Command

namespace Program

open Command Fixture Live

variable {σ Client : Type}

/-- Whatever is sent with the text of a `DROP` or a `CREATE` drops or makes a database, and is sent
over a connection to the maintenance database. -/
def OverMaintenance (contacts : List Contact) : Prop :=
  ∀ target statement, Contact.executed target statement ∈ contacts →
    Sql.IsAdministrative statement.text →
    ((∃ name, statement = .dropDatabase name) ∨
      ∃ name template, statement = .createDatabase name template) ∧
    target.database = "postgres"

theorem overMaintenance_of_maintains {drops : String → Prop} {creates : String → String → Prop}
    {contacts : List Contact} (h : ∀ c ∈ contacts, Maintains drops creates c) :
    OverMaintenance contacts := by
  intro target statement mem administrative
  have maintained := h _ mem
  have kind := Sql.isAdministrative_text_iff.mp administrative
  refine ⟨kind, ?_⟩
  rcases kind with ⟨name, rfl⟩ | ⟨name, template, rfl⟩
  · exact maintained.2
  · exact maintained.2

/-- Databases are not dropped or made in any other way, whatever the command. -/
theorem overMaintenance_run {S : System σ Client} {params : Connection.Params} {p : Plan}
    {c : Command} {workingDirectory : String} {w : σ}
    (planned : Plan.ofConfig p.config workingDirectory = .ok p) :
    OverMaintenance (Command.run (stage S.observed params) p.config workingDirectory c
      { world := { world := w } }).2.world.contacts := by
  have free := @maintains_free (fun _ => True) fun _ _ => True
  refine overMaintenance_of_maintains (contacts_of_run free planned fun e _ _ => ?_)
  exact brings_maintains (fun _ _ _ => trivial) fun _ _ _ _ => trivial

/-- Whatever the command line, the server and the programs: what is not understood or rejected has
no effect, and any other command keeps to its own databases. -/
theorem effects_bounded (S : System σ Client) (arguments : List String) (w : σ) :
    let out := Program.run S.observed arguments { world := w }
    match CommandLine.parse (S.environment w) arguments with
    | .error u => out = (.refused u, { world := w })
    | .ok l =>
      match l.resolve fun path => S.readFile path w with
      | .error fault => out = (.ran l.log [] (.error (.config fault)), { world := w })
      | .ok config =>
        (l.command.Rejected → ∃ e, out = (.ran l.log [] (.error e), { world := w })) ∧
        (¬ l.command.Rejected → l.command.Reaches config out.2.contacts ∧
          OverMaintenance out.2.contacts) := by
  intro out
  have ran : out = Program.run S.observed arguments { world := w } := rfl
  have environment : S.observed.environment { world := w } = S.environment w := rfl
  rw [Program.run, environment] at ran
  cases parsed : CommandLine.parse (S.environment w) arguments with
  | error u =>
    rw [parsed] at ran
    exact ran
  | ok l =>
    rw [parsed] at ran
    have read : (fun path => S.observed.readFile path { world := w }) =
        fun path => S.readFile path w := rfl
    simp only [Program.obey, read] at ran
    dsimp only
    cases resolved : l.resolve fun path => S.readFile path w with
    | error fault =>
      rw [resolved] at ran
      exact ran
    | ok config =>
      rw [resolved] at ran
      dsimp only at ran ⊢
      obtain ⟨p, planned, rfl⟩ :=
        Plan.ofConfig_of_valid (CommandLine.fault?_of_resolve resolved) (S.workingDirectory w)
      constructor
      · intro rejected
        obtain ⟨e, refused⟩ := run_of_rejected rejected
        refine ⟨e, ?_⟩
        rw [ran, refused]
      · intro accepted
        rw [ran]
        exact ⟨reaches_run planned accepted, overMaintenance_run planned⟩

end Program

end Testbed
