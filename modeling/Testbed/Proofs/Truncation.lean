import Testbed.Proofs.TableServer
import Testbed.Proofs.Traffic

/-!
# Tables are emptied in one transaction

Names of tables are returned only if all of these tables were emptied, and no table is empty for
others until all are.
-/

namespace Testbed

open Connection (Resolved)

namespace Live

variable {σ Client : Type} {S : System σ Client} {params : Connection.Params}

/-! ## What is said -/

def emptying (client : Client) (tables : List String) : List (Turn Client) :=
  tables.map fun table => .executed client (.truncateTable table) (.ok ())

/-- The turns up to the point where the first tables of the list are emptied in a transaction. -/
def begun (target : Resolved) (client : Client) (candidates tables front : List String) :
    List (Turn Client) :=
  .connected target (.ok client) :: .listed client candidates (.ok tables) ::
    .executed client .begin (.ok ()) :: emptying client front

/-- The courses of a request to empty those of the candidates that exist. -/
inductive Truncated (place : Except Connection.BadPort Resolved) (database : String)
    (candidates : List String) : Except Failure (List String) → List (Turn Client) → Prop
  | nowhere {fault} : place = .error fault →
      Truncated place database candidates (.error (.port fault)) []
  | unconnected {target fault} : place = .ok target →
      Truncated place database candidates (.error (.server (.connect database) fault))
        [.connected target (.error fault)]
  | unlisted {target client fault} : place = .ok target →
      Truncated place database candidates (.error (.server (.listTables database) fault))
        [.connected target (.ok client), .listed client candidates (.error fault),
          .disconnected client]
  | notBegun {target client tables fault answer} : place = .ok target →
      Truncated place database candidates (.error (.server .begin fault))
        [.connected target (.ok client), .listed client candidates (.ok tables),
          .executed client .begin (.error fault), .executed client .rollback answer,
          .disconnected client]
  | broken {target client front table back fault answer} : place = .ok target →
      Truncated place database candidates (.error (.server (.truncate table) fault))
        (begun target client candidates (front ++ table :: back) front ++
          [.executed client (.truncateTable table) (.error fault),
            .executed client .rollback answer, .disconnected client])
  | uncommitted {target client tables fault} : place = .ok target →
      Truncated place database candidates (.error (.server .commit fault))
        (begun target client candidates tables tables ++
          [.executed client .commit (.error fault), .disconnected client])
  | committed {target client tables} : place = .ok target →
      Truncated place database candidates (.ok tables)
        (begun target client candidates tables tables ++
          [.executed client .commit (.ok ()), .disconnected client])

def step (table : String) : ServerTask × Sql.Statement :=
  (.truncate table, .truncateTable table)

theorem accepted_steps (client : Client) (tables : List String) :
    accepted client (tables.map step) = emptying client tables :=
  List.map_map

theorem Transacted.truncated {place : Except Connection.BadPort Resolved} {database : String}
    {candidates tables : List String} {target : Resolved} {client : Client}
    {r : Except Failure Unit} {turns : List (Turn Client)} (known : place = .ok target)
    (h : Transacted client (tables.map step) r turns) :
    Truncated place database candidates (r.map fun _ => tables)
      (.connected target (.ok client) :: .listed client candidates (.ok tables) :: turns ++
        [.disconnected client]) := by
  generalize steps : tables.map step = work at h
  cases h with
  | notBegun => exact .notBegun known
  | broken =>
    obtain ⟨front, rest, rfl, rfl, others⟩ := List.map_eq_append_iff.mp steps
    obtain ⟨table, back, rfl, first, -⟩ := List.map_eq_cons_iff.mp others
    cases first
    rw [accepted_steps]
    simpa [begun, Except.map] using Truncated.broken known
  | uncommitted =>
    rw [← steps, accepted_steps]
    simpa [begun, Except.map] using Truncated.uncommitted known
  | committed =>
    rw [← steps, accepted_steps]
    simpa [begun, Except.map] using Truncated.committed known

variable (S params) in
theorem says_truncateTables (database : String) (candidates : List String) (w : σ) :
    ∃ r turns w', S.Says (truncateTables S params database candidates)
      (truncateTables S.transcribed params database candidates) w r turns w' ∧
      Truncated (params.resolve (S.environment w) database) database candidates r turns := by
  cases place : params.resolve (S.environment w) database with
  | error fault => exact ⟨_, _, w, says_nowhere place, .nowhere rfl⟩
  | ok target =>
    rcases met : S.connect target w with ⟨answer, m⟩
    cases answer with
    | error fault => exact ⟨_, _, m, says_unconnected place met, .unconnected rfl⟩
    | ok client =>
      rcases asked : S.tablesAmong client candidates m with ⟨answer, m'⟩
      have looked : S.Says (asking (.listTables database) (S.tablesAmong client candidates))
          (asking (.listTables database) (S.transcribed.tablesAmong client candidates)) m
          (answer.mapError (.server (.listTables database)))
          [.listed client candidates answer] m' :=
        (System.says_noting (.listed client candidates) asked asked).asking _
      cases answer with
      | error fault =>
        refine ⟨_, _, _, says_withClient place met ⟨?_, fun past => ?_, looked.talk⟩, .unlisted rfl⟩
        · rw [looked.plain]
          rfl
        · rw [looked.noted]
          rfl
      | ok tables =>
        obtain ⟨r, turns, w', said, transacted⟩ := says_transaction (S := S) client
          (tables.map fun t => (.truncate t, .truncateTable t)) m'
        refine ⟨_, _, _, says_withClient place met ⟨?_, fun past => ?_,
          looked.talk.append said.talk⟩, transacted.truncated rfl⟩
        · rw [looked.plain]
          dsimp only [Except.mapError]
          rw [said.plain]
        · rw [looked.noted]
          dsimp only [Except.mapError]
          rw [said.noted, List.append_assoc]

/-! ## What becomes of the tables -/

namespace Transactional

variable (V : Transactional S) {w w' : σ} {client : Client} {target : Resolved}
  {candidates tables : List String}

/-- Of the candidates, those tables of a database that exist, in the server's order. -/
def existing (database : String) (candidates : List String) (w : σ) : List String :=
  ((V.contents w database).map (·.1)).filter (· ∈ candidates)

theorem emptying {before : List String} (pending : V.pending client w = some before)
    (talk : S.Talk w (emptying client tables) w') :
    V.contents w' = V.contents w ∧ V.pending client w' = some (before ++ tables) := by
  induction tables generalizing before w with
  | nil =>
    obtain ⟨⟩ := talk
    exact ⟨rfl, by rwa [List.append_nil]⟩
  | cons table tables ih =>
    obtain ⟨m, sent, rest⟩ := talk.of_cons
    obtain ⟨same, more⟩ := V.truncated pending sent
    obtain ⟨kept, all⟩ := ih (more rfl) rest
    exact ⟨kept.trans same, by rw [all, List.append_assoc, List.singleton_append]⟩

theorem working {front : List String}
    (talk : S.Talk w (Live.begun target client candidates tables front) w') :
    V.contents w' = V.contents w ∧ V.pending client w' = some front ∧
      V.home client = target.database ∧ tables = V.existing target.database candidates w := by
  obtain ⟨_, connected, talk⟩ := talk.of_cons
  obtain ⟨_, listed, talk⟩ := talk.of_cons
  obtain ⟨_, begun, talk⟩ := talk.of_cons
  obtain ⟨first, home⟩ := V.connected connected
  obtain ⟨second, found⟩ := V.listed listed
  obtain ⟨third, pending⟩ := V.begun begun
  obtain ⟨last, all⟩ := V.emptying (pending rfl) talk
  refine ⟨by rw [last, third, second, first], all, home client rfl, ?_⟩
  rw [found tables rfl, first, home client rfl, existing]

theorem parted (talk : S.Talk w [.disconnected client] w') : V.contents w' = V.contents w := by
  obtain ⟨_, rfl, ⟨⟩⟩ := talk.of_cons
  exact V.disconnected client w

/-- Whatever comes of a request to empty tables, all of them are emptied or none. -/
theorem all_or_nothing {place : Except Connection.BadPort Resolved} {database : String}
    {r : Except Failure (List String)} {turns : List (Turn Client)}
    (form : Truncated place database candidates r turns)
    (placed : ∀ target, place = .ok target → target.database = database)
    (talk : S.Talk w turns w') :
    (∀ names, r = .ok names → names = V.existing database candidates w ∧
      V.contents w' = emptied database names (V.contents w)) ∧
    (∀ e, r = .error e → (∀ fault, e ≠ .server .commit fault) → V.contents w' = V.contents w) ∧
    (V.contents w' = V.contents w ∨
      V.contents w' = emptied database (V.existing database candidates w) (V.contents w)) := by
  cases form with
  | nowhere =>
    obtain ⟨⟩ := talk
    exact ⟨nofun, fun _ _ _ => rfl, .inl rfl⟩
  | unconnected =>
    obtain ⟨_, connected, ⟨⟩⟩ := talk.of_cons
    have same := (V.connected connected).1
    exact ⟨nofun, fun _ _ _ => same, .inl same⟩
  | unlisted =>
    obtain ⟨_, connected, talk⟩ := talk.of_cons
    obtain ⟨_, listed, talk⟩ := talk.of_cons
    have same : V.contents w' = V.contents w := by
      rw [V.parted talk, (V.listed listed).1, (V.connected connected).1]
    exact ⟨nofun, fun _ _ _ => same, .inl same⟩
  | notBegun =>
    obtain ⟨_, connected, talk⟩ := talk.of_cons
    obtain ⟨_, listed, talk⟩ := talk.of_cons
    obtain ⟨_, begun, talk⟩ := talk.of_cons
    obtain ⟨_, rolledBack, talk⟩ := talk.of_cons
    have same : V.contents w' = V.contents w := by
      rw [V.parted talk, V.rolledBack rolledBack, (V.begun begun).1, (V.listed listed).1,
        (V.connected connected).1]
    exact ⟨nofun, fun _ _ _ => same, .inl same⟩
  | broken =>
    obtain ⟨_, working, talk⟩ := talk.of_append
    obtain ⟨_, failed, talk⟩ := talk.of_cons
    obtain ⟨_, rolledBack, talk⟩ := talk.of_cons
    obtain ⟨before, pending, -⟩ := V.working working
    have same : V.contents w' = V.contents w := by
      rw [V.parted talk, V.rolledBack rolledBack, (V.truncated pending failed).1, before]
    exact ⟨nofun, fun _ _ _ => same, .inl same⟩
  | uncommitted known =>
    obtain ⟨_, working, talk⟩ := talk.of_append
    obtain ⟨_, ended, talk⟩ := talk.of_cons
    obtain ⟨before, pending, home, found⟩ := V.working working
    rw [placed _ known] at home found
    refine ⟨nofun, fun e same other => ?_, ?_⟩
    · exact absurd (Except.error.inj same).symm (other _)
    · rw [V.parted talk, ← found, ← before, ← home]
      exact (V.committed pending ended).symm.imp And.right id
  | @committed target client tables known =>
    obtain ⟨_, working, talk⟩ := talk.of_append
    obtain ⟨_, ended, talk⟩ := talk.of_cons
    obtain ⟨before, pending, home, found⟩ := V.working working
    rw [placed _ known] at home found
    have all : V.contents w' = emptied database tables (V.contents w) := by
      rw [V.parted talk, ← before, ← home]
      exact (V.committed pending ended).resolve_right fun no => no.1 rfl
    refine ⟨?_, nofun, .inr (found ▸ all)⟩
    rintro _ ⟨⟩
    exact ⟨found, all⟩

end Transactional

/-! ## The request as a whole -/

section Whole

variable {place : Except Connection.BadPort Resolved} {database : String}
  {candidates : List String} {r : Except Failure (List String)} {turns : List (Turn Client)}

theorem not_failed_of_mem_emptying {client : Client} {tables : List String} {turn : Turn Client}
    (h : turn ∈ emptying client tables) : turn.failed = false := by
  obtain ⟨table, -, rfl⟩ := List.mem_map.mp h
  rfl

/-- Names are returned if and only if nothing failed. -/
theorem Truncated.exists_ok_iff (h : Truncated place database candidates r turns) :
    (∃ names, r = .ok names) ↔
      (∃ target, place = .ok target) ∧ ∀ turn ∈ turns, turn.failed = false := by
  have no {e : Failure} {turn : Turn Client} (mem : turn ∈ turns) (failed : turn.failed = true) :
      (∃ names : List String, Except.error e = .ok names) ↔
        (∃ target, place = .ok target) ∧ ∀ turn ∈ turns, turn.failed = false :=
    ⟨nofun, fun fine => absurd failed (by simp [fine.2 _ mem])⟩
  cases h with
  | nowhere nowhere =>
    refine ⟨nofun, ?_⟩
    rintro ⟨⟨target, known⟩, -⟩
    cases nowhere.symm.trans known
  | unconnected => exact no List.mem_cons_self rfl
  | unlisted => exact no (List.mem_cons_of_mem _ List.mem_cons_self) rfl
  | notBegun =>
    exact no (List.mem_cons_of_mem _ (List.mem_cons_of_mem _ List.mem_cons_self)) rfl
  | broken => exact no (List.mem_append_right _ List.mem_cons_self) rfl
  | uncommitted => exact no (List.mem_append_right _ List.mem_cons_self) rfl
  | @committed target client tables known =>
    refine ⟨fun _ => ⟨⟨target, known⟩, fun turn mem => ?_⟩, fun _ => ⟨tables, rfl⟩⟩
    simp only [begun, List.mem_append, List.mem_cons] at mem
    rcases mem with (rfl | rfl | rfl | mem) | rfl | rfl | no
    · rfl
    · rfl
    · rfl
    · exact not_failed_of_mem_emptying mem
    · rfl
    · rfl
    · cases no

/-- Names are returned if and only if these tables were emptied and that was committed. -/
theorem Truncated.eq_ok_iff (h : Truncated place database candidates r turns)
    (names : List String) : r = .ok names ↔ ∃ target client, place = .ok target ∧
      turns = begun target client candidates names names ++
        [.executed client .commit (.ok ()), .disconnected client] := by
  constructor
  · rintro rfl
    obtain _ | _ | _ | _ | _ | _ | known := h
    exact ⟨_, _, known, rfl⟩
  · rintro ⟨target, client, known, rfl⟩
    have whole : Truncated place database candidates (.ok names)
        (begun target client candidates names names ++
          [.executed client .commit (.ok ()), .disconnected client]) := .committed known
    obtain ⟨tables, rfl⟩ := h.exists_ok_iff.mpr (whole.exists_ok_iff.mp ⟨names, rfl⟩)
    generalize same : begun target client candidates names names ++
      [.executed client .commit (.ok ()), .disconnected client] = turns at h
    cases h
    obtain ⟨-, ⟨-, listed⟩, -⟩ := by simpa [begun] using same
    rw [listed]

/-- Where a table is not emptied, the request fails for that reason. -/
theorem Truncated.of_mem (h : Truncated place database candidates r turns) {client : Client}
    {table : String} {fault : ClientFault}
    (mem : .executed client (.truncateTable table) (.error fault) ∈ turns) :
    r = .error (.server (.truncate table) fault) ∧ ∃ target front back answer,
      turns = begun target client candidates (front ++ table :: back) front ++
        [.executed client (.truncateTable table) (.error fault),
          .executed client .rollback answer, .disconnected client] := by
  cases h with
  | broken =>
    obtain ⟨rfl, rfl, rfl⟩ := by simpa [begun, emptying] using mem
    exact ⟨rfl, _, _, _, _, rfl⟩
  | _ => simp [begun, emptying] at mem

end Whole

theorem message_truncate (table : String) (fault : ClientFault) :
    (Failure.server (.truncate table) fault).message =
      "truncating table '" ++ table ++ "': " ++ fault.message := by
  have colon (front : String) : front ++ "'" ++ ": " = front ++ "': " := by
    rw [String.append_assoc]
    rfl
  exact congrArg (· ++ fault.message) (colon _)

/-- A request to empty tables returns names if and only if nothing failed. Then these are the names
of the candidates that exist, in the server's order, and there was one transaction in which these
tables were emptied in this order, each once, and which was committed. Where a table cannot be
emptied, the request fails for that reason with the name of the table, no other table is tried and
nothing is committed. On a server with transactions, all tables are emptied or none, and none if
anything failed but the commit. -/
theorem truncation_all_or_nothing (S : System σ Client) (params : Connection.Params)
    (database : String) (candidates : List String) (w : σ) :
    let place := params.resolve (S.environment w) database
    ∃ r turns w',
      truncateTables S params database candidates w = (r, w') ∧
      truncateTables S.transcribed params database candidates { world := w } =
        (r, { world := w', turns }) ∧
      S.Talk w turns w' ∧
      ((∃ names, r = .ok names) ↔
        (∃ target, place = .ok target) ∧ ∀ turn ∈ turns, turn.failed = false) ∧
      (∀ names, r = .ok names ↔ ∃ target client, place = .ok target ∧
        turns = begun target client candidates names names ++
          [.executed client .commit (.ok ()), .disconnected client]) ∧
      (∀ client table fault, .executed client (.truncateTable table) (.error fault) ∈ turns →
        r = .error (.server (.truncate table) fault) ∧
        (Failure.server (.truncate table) fault).message =
          "truncating table '" ++ table ++ "': " ++ fault.message ∧
        (∃ target front back answer,
          turns = begun target client candidates (front ++ table :: back) front ++
            [.executed client (.truncateTable table) (.error fault),
              .executed client .rollback answer, .disconnected client]) ∧
        ∀ other answer, .executed other .commit answer ∉ turns) ∧
      ∀ V : Transactional S,
        (∀ names, r = .ok names → names = V.existing database candidates w ∧
          V.contents w' = emptied database names (V.contents w)) ∧
        (∀ e, r = .error e → (∀ fault, e ≠ .server .commit fault) →
          V.contents w' = V.contents w) ∧
        (V.contents w' = V.contents w ∨
          V.contents w' = emptied database (V.existing database candidates w) (V.contents w)) := by
  intro place
  obtain ⟨r, turns, w', said, form⟩ :=
    says_truncateTables S params database candidates w
  refine ⟨r, turns, w', said.plain, said.noted [], said.talk, form.exists_ok_iff, form.eq_ok_iff,
    fun client table fault mem => ?_, fun V => ?_⟩
  · obtain ⟨failed, target, front, back, answer, same⟩ := form.of_mem mem
    refine ⟨failed, ?_, ⟨target, front, back, answer, same⟩, fun other answer => ?_⟩
    · exact message_truncate table fault
    · rw [same]
      simp [begun, emptying]
  · exact V.all_or_nothing form (fun _ => resolve_database) said.talk

/-- The second of two tables cannot be emptied, or all goes well. -/
theorem truncation_all_or_nothing_broken :
    let contents (database : String) : List (String × Nat) := if database = "tmpl" then
      [("gb_postcode", 3), ("place", 7), ("us_postcode", 5)] else []
    let candidates := ["us_postcode", "gb_postcode", "fr_postcode"]
    let broken : TableServer := { contents, troubles := [false, false, false, false, true] }
    let whole : TableServer := { contents }
    let run (s : TableServer) := truncateTables TableServer.system {} "tmpl" candidates s
    (run broken).1 = .error (.server (.truncate "us_postcode") .refused) ∧
      (run broken).2.contents = contents ∧
      (run whole).1 = .ok ["gb_postcode", "us_postcode"] ∧
      (run whole).2.contents "tmpl" = [("gb_postcode", 0), ("place", 7), ("us_postcode", 0)] := by
  intro contents candidates broken whole run
  have failed : (run broken).1 = .error (.server (.truncate "us_postcode") .refused) := rfl
  have succeeded : (run whole).1 = .ok ["gb_postcode", "us_postcode"] := rfl
  refine ⟨failed, ?_, succeeded, ?_⟩
  · obtain ⟨r, _, w', plain, -, -, -, -, -, view⟩ :=
      truncation_all_or_nothing TableServer.system {} "tmpl" candidates broken
    have none : w'.contents = contents := by
      refine (view TableServer.transactional).2.1 _ ((congrArg Prod.fst plain).symm.trans failed) ?_
      intro fault
      exact nofun
    exact (congrArg (·.2.contents) plain).trans none
  · obtain ⟨r, _, w', plain, -, -, -, -, -, view⟩ :=
      truncation_all_or_nothing TableServer.system {} "tmpl" candidates whole
    have all : w'.contents = emptied "tmpl" ["gb_postcode", "us_postcode"] contents :=
      ((view TableServer.transactional).1 _ ((congrArg Prod.fst plain).symm.trans succeeded)).2
    exact (congrArg (·.2.contents "tmpl") plain).trans (congrFun all "tmpl")

end Live

end Testbed
