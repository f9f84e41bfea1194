import Testbed.Proofs.Transcript

/-!
# Transactions

What is said in a transaction is one of a few things: it is not begun, it breaks at one statement,
it is not committed, or it is committed with all statements. It is rolled back in the first two
cases. What a server with transactions makes of that is stated for the emptying of tables.
-/

namespace Testbed

open Connection (Resolved)

namespace Live

variable {σ Client : Type} {S : System σ Client}

section Forms

variable (client : Client)

def accepted (work : List (ServerTask × Sql.Statement)) : List (Turn Client) :=
  work.map fun step => .executed client step.2 (.ok ())

/-- Statements are sent up to the first that fails. -/
inductive Sent : List (ServerTask × Sql.Statement) → Except Failure Unit → List (Turn Client) → Prop
  | nil : Sent [] (.ok ()) []
  | failed {task statement work fault} : Sent ((task, statement) :: work)
      (.error (.server task fault)) [.executed client statement (.error fault)]
  | next {task statement work r turns} : Sent work r turns → Sent ((task, statement) :: work) r
      (.executed client statement (.ok ()) :: turns)

/-- The courses of a transaction. -/
inductive Transacted : List (ServerTask × Sql.Statement) → Except Failure Unit →
    List (Turn Client) → Prop
  | notBegun {work fault answer} : Transacted work (.error (.server .begin fault))
      [.executed client .begin (.error fault), .executed client .rollback answer]
  | broken {front task statement back fault answer} :
      Transacted (front ++ (task, statement) :: back) (.error (.server task fault))
        (.executed client .begin (.ok ()) :: accepted client front ++
          [.executed client statement (.error fault), .executed client .rollback answer])
  | uncommitted {work fault} : Transacted work (.error (.server .commit fault))
      (.executed client .begin (.ok ()) :: accepted client work ++
        [.executed client .commit (.error fault)])
  | committed {work} : Transacted work (.ok ())
      (.executed client .begin (.ok ()) :: accepted client work ++
        [.executed client .commit (.ok ())])

variable {client} {work : List (ServerTask × Sql.Statement)} {r : Except Failure Unit}
  {turns : List (Turn Client)}

theorem Sent.done_or_broken (h : Sent client work r turns) :
    (r = .ok () ∧ turns = accepted client work) ∨
    ∃ front task statement back fault, work = front ++ (task, statement) :: back ∧
      r = .error (.server task fault) ∧
      turns = accepted client front ++ [.executed client statement (.error fault)] := by
  induction h with
  | nil => exact .inl ⟨rfl, rfl⟩
  | failed => exact .inr ⟨[], _, _, _, _, rfl, rfl, rfl⟩
  | @next task statement _ _ _ _ ih =>
    rcases ih with ⟨rfl, rfl⟩ | ⟨front, _, _, _, _, rfl, rfl, rfl⟩
    · exact .inl ⟨rfl, rfl⟩
    · exact .inr ⟨(task, statement) :: front, _, _, _, _, rfl, rfl, rfl⟩

/-- After a failure the transaction is rolled back. -/
theorem Sent.rolledBack {e : Failure}
    (h : Sent client ((.begin, .begin) :: work) (.error e) turns)
    (answer : Except ClientFault Unit) :
    Transacted client work (.error e) (turns ++ [.executed client .rollback answer]) := by
  cases h with
  | failed => exact .notBegun
  | next rest =>
    obtain ⟨no, -⟩ | ⟨front, task, statement, back, fault, rfl, failed, rfl⟩ := rest.done_or_broken
    · cases no
    · cases failed
      rw [List.cons_append, List.append_assoc]
      exact .broken

theorem Sent.ended (h : Sent client ((.begin, .begin) :: work) (.ok ()) turns)
    (answer : Except ClientFault Unit) :
    Transacted client work (answer.mapError (.server .commit))
      (turns ++ [.executed client .commit answer]) := by
  obtain _ | _ | rest := h
  obtain ⟨-, rfl⟩ | ⟨_, _, _, _, _, -, no, -⟩ := rest.done_or_broken
  · cases answer with
    | ok => exact .committed
    | error => exact .uncommitted
  · cases no

end Forms

theorem says_execute (client : Client) (task : ServerTask) (statement : Sql.Statement) (w : σ) :
    ∃ answer w', S.Says (asking task (S.execute client statement))
      (asking task (S.transcribed.execute client statement)) w
      (answer.mapError (.server task)) [.executed client statement answer] w' := by
  rcases sent : S.execute client statement w with ⟨answer, w'⟩
  exact ⟨answer, w', (System.says_noting (.executed client statement) sent sent).asking task⟩

theorem says_executeAll (client : Client) (work : List (ServerTask × Sql.Statement)) (w : σ) :
    ∃ r turns w', S.Says (executeAll S client work) (executeAll S.transcribed client work) w
      r turns w' ∧ Sent client work r turns := by
  induction work generalizing w with
  | nil => exact ⟨_, _, w, ⟨rfl, fun past => by rw [List.append_nil]; rfl, .nil⟩, .nil⟩
  | cons step work ih =>
    obtain ⟨task, statement⟩ := step
    obtain ⟨answer, m, first⟩ := says_execute (S := S) client task statement w
    cases answer with
    | error fault =>
      refine ⟨_, _, m, ⟨?_, fun past => ?_, first.talk⟩, .failed⟩
      · rw [executeAll, first.plain]
        rfl
      · rw [executeAll, first.noted]
        rfl
    | ok _ =>
      obtain ⟨r, turns, w', rest, sent⟩ := ih m
      refine ⟨r, _, w', ⟨?_, fun past => ?_, first.talk.append rest.talk⟩, sent.next⟩
      · rw [executeAll, first.plain]
        exact rest.plain
      · rw [executeAll, first.noted]
        exact (rest.noted _).trans (by rw [List.append_assoc])

theorem says_transaction (client : Client) (work : List (ServerTask × Sql.Statement)) (w : σ) :
    ∃ r turns w', S.Says (transaction S client work) (transaction S.transcribed client work) w
      r turns w' ∧ Transacted client work r turns := by
  obtain ⟨r, turns, m, first, sent⟩ :=
    says_executeAll (S := S) client ((.begin, .begin) :: work) w
  cases r with
  | error e =>
    obtain ⟨answer, w', last⟩ := says_execute (S := S) client .begin .rollback m
    have kept := congrArg Prod.snd last.plain
    refine ⟨_, _, w', ⟨?_, fun past => ?_, first.talk.append last.talk⟩, sent.rolledBack answer⟩
    · rw [transaction, first.plain]
      exact congrArg (Prod.mk _) kept
    · have written := congrArg Prod.snd (last.noted (past ++ turns))
      rw [transaction, first.noted]
      exact (congrArg (Prod.mk _) written).trans (by rw [List.append_assoc])
  | ok _ =>
    obtain ⟨answer, w', last⟩ := says_execute (S := S) client .commit .commit m
    refine ⟨_, _, w', ⟨?_, fun past => ?_, first.talk.append last.talk⟩, sent.ended answer⟩
    · rw [transaction, first.plain]
      exact last.plain
    · rw [transaction, first.noted]
      exact (last.noted _).trans (by rw [List.append_assoc])

/-! ## What a transaction changes -/

/-- Tables of one database are emptied, and all else stays as it is. -/
def emptied (database : String) (tables : List String) (contents : String → List (String × Nat))
    (d : String) : List (String × Nat) :=
  if d = database then (contents d).map fun t => (t.1, if t.1 ∈ tables then 0 else t.2)
  else contents d

/-- What is known of a server with transactions. A transaction changes nothing until it is
committed. Where committing fails, it may have been committed nevertheless. -/
structure Transactional (S : System σ Client) where
  /-- The tables of a database in the server's order, with the numbers of rows that count for
  whoever is in no transaction. -/
  contents : σ → String → List (String × Nat)
  /-- The database to which the client is connected. -/
  home : Client → String
  /-- The tables emptied so far in the transaction in which the client is. -/
  pending : Client → σ → Option (List String)
  connected : ∀ {target w answer w'}, S.connect target w = (answer, w') →
    contents w' = contents w ∧ ∀ client, answer = .ok client → home client = target.database
  listed : ∀ {client names w answer w'}, S.tablesAmong client names w = (answer, w') →
    contents w' = contents w ∧ ∀ tables, answer = .ok tables →
      tables = ((contents w (home client)).map (·.1)).filter (· ∈ names)
  begun : ∀ {client w answer w'}, S.execute client .begin w = (answer, w') →
    contents w' = contents w ∧ (answer = .ok () → pending client w' = some [])
  truncated : ∀ {client table tables w answer w'}, pending client w = some tables →
    S.execute client (.truncateTable table) w = (answer, w') →
      contents w' = contents w ∧ (answer = .ok () → pending client w' = some (tables ++ [table]))
  rolledBack : ∀ {client w answer w'}, S.execute client .rollback w = (answer, w') →
    contents w' = contents w
  committed : ∀ {client tables w answer w'}, pending client w = some tables →
    S.execute client .commit w = (answer, w') →
      contents w' = emptied (home client) tables (contents w) ∨
        answer ≠ .ok () ∧ contents w' = contents w
  disconnected : ∀ client w, contents (S.disconnect client w) = contents w

end Live

end Testbed
