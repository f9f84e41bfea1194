import Testbed.Live.Server

/-!
# What is said over connections

A turn is a request to the database server together with its answer. A system can be transcribed, so
that all turns are written down. What is done in the transcribed system comes to the same as in the
system itself, and what it writes down is what took place there.
-/

namespace Testbed

open Connection (Resolved)

/-- A request to the database server and its answer. -/
inductive Turn (Client : Type) where
  | connected (target : Resolved) (answer : Except ClientFault Client)
  | executed (client : Client) (statement : Sql.Statement) (answer : Except ClientFault Unit)
  | counted (client : Client) (name : String) (answer : Except ClientFault Nat)
  | listed (client : Client) (names : List String) (answer : Except ClientFault (List String))
  | disconnected (client : Client)

def Turn.failed {Client : Type} : Turn Client → Bool
  | connected _ (.error _) | executed _ _ (.error _) | counted _ _ (.error _)
  | listed _ _ (.error _) => true
  | _ => false

structure Transcript (σ Client : Type) where
  world : σ
  turns : List (Turn Client) := []

namespace Transcript

variable {σ Client ρ : Type}

def noting (turn : ρ → Turn Client) (f : σ → ρ × σ) (t : Transcript σ Client) :
    ρ × Transcript σ Client :=
  let (answer, world) := f t.world
  (answer, { world, turns := t.turns ++ [turn answer] })

def passing (f : σ → ρ × σ) (t : Transcript σ Client) : ρ × Transcript σ Client :=
  let (answer, world) := f t.world
  (answer, { t with world })

def changing (f : σ → σ) (t : Transcript σ Client) : Transcript σ Client :=
  { t with world := f t.world }

end Transcript

namespace System

open Transcript

variable {σ Client ρ : Type}

def transcribed (S : System σ Client) : System (Transcript σ Client) Client where
  environment t := S.environment t.world
  workingDirectory t := S.workingDirectory t.world
  directoryFault t := S.directoryFault t.world
  connect target := noting (.connected target) (S.connect target)
  execute client s := noting (.executed client s) (S.execute client s)
  countDatabases client name := noting (.counted client name) (S.countDatabases client name)
  tablesAmong client names := noting (.listed client names) (S.tablesAmong client names)
  disconnect client t :=
    { world := S.disconnect client t.world, turns := t.turns ++ [.disconnected client] }
  start i := passing (S.start i)
  readFile path t := S.readFile path t.world
  makeDirectory stem := passing (S.makeDirectory stem)
  makeFile stem ending := passing (S.makeFile stem ending)
  writeFile path content := passing (S.writeFile path content)
  removeDirectory path := changing (S.removeDirectory path)
  removeFile path := changing (S.removeFile path)

/-- In the world `w` the turn takes place, and the world `w'` is what comes of it. -/
def Takes (S : System σ Client) (w : σ) : Turn Client → σ → Prop
  | .connected target answer, w' => S.connect target w = (answer, w')
  | .executed client statement answer, w' => S.execute client statement w = (answer, w')
  | .counted client name answer, w' => S.countDatabases client name w = (answer, w')
  | .listed client names answer, w' => S.tablesAmong client names w = (answer, w')
  | .disconnected client, w' => S.disconnect client w = w'

inductive Talk (S : System σ Client) : σ → List (Turn Client) → σ → Prop
  | nil {w} : Talk S w [] w
  | cons {w turn w' turns w''} : S.Takes w turn w' → Talk S w' turns w'' →
      Talk S w (turn :: turns) w''

variable {S : System σ Client} {w w' w'' : σ} {turn : Turn Client}
  {turns others : List (Turn Client)}

namespace Talk

theorem single (h : S.Takes w turn w') : S.Talk w [turn] w' :=
  .cons h .nil

theorem append (h : S.Talk w turns w') (h' : S.Talk w' others w'') :
    S.Talk w (turns ++ others) w'' := by
  induction h with
  | nil => exact h'
  | cons takes _ ih => exact .cons takes (ih h')

theorem of_cons (h : S.Talk w (turn :: turns) w'') :
    ∃ w', S.Takes w turn w' ∧ S.Talk w' turns w'' := by
  obtain _ | ⟨takes, rest⟩ := h
  exact ⟨_, takes, rest⟩

theorem of_append (h : S.Talk w (turns ++ others) w'') :
    ∃ w', S.Talk w turns w' ∧ S.Talk w' others w'' := by
  induction turns generalizing w with
  | nil => exact ⟨w, .nil, h⟩
  | cons turn turns ih =>
    obtain ⟨m, takes, rest⟩ := of_cons h
    obtain ⟨m', left, right⟩ := ih rest
    exact ⟨m', .cons takes left, right⟩

end Talk

/-- In the world `w`, what is done as `a` in the system and as `a'` in the transcribed one comes to
`r` and the world `w'` in both. The turns are those that take place and are written down. -/
structure Says (S : System σ Client) (a : σ → ρ × σ)
    (a' : Transcript σ Client → ρ × Transcript σ Client) (w : σ) (r : ρ)
    (turns : List (Turn Client)) (w' : σ) : Prop where
  plain : a w = (r, w')
  noted : ∀ past, a' ⟨w, past⟩ = (r, ⟨w', past ++ turns⟩)
  talk : S.Talk w turns w'

theorem says_noting {f : σ → ρ × σ} (turn : ρ → Turn Client) {answer : ρ}
    (asked : f w = (answer, w')) (takes : S.Takes w (turn answer) w') :
    S.Says f (noting turn f) w answer [turn answer] w' := by
  refine ⟨asked, fun past => ?_, .single takes⟩
  rw [noting]
  dsimp only
  rw [asked]

theorem Says.asking {α : Type} {request : σ → Except ClientFault α × σ}
    {request' : Transcript σ Client → Except ClientFault α × Transcript σ Client}
    {r : Except ClientFault α} (task : ServerTask) (h : S.Says request request' w r turns w') :
    S.Says (Live.asking task request) (Live.asking task request') w
      (r.mapError (.server task)) turns w' := by
  refine ⟨?_, fun past => ?_, h.talk⟩
  · rw [Live.asking, h.plain]
  · rw [Live.asking, h.noted]

end System

namespace Live

variable {σ Client α : Type} {S : System σ Client} {params : Connection.Params}

section Connected

variable {database : String} {work : Client → Action σ α}
  {work' : Client → Action (Transcript σ Client) α} {target : Resolved} {client : Client}
  {r : Except Failure α} {turns : List (Turn Client)} {w m w' : σ}

theorem says_nowhere {fault : Connection.BadPort}
    (place : params.resolve (S.environment w) database = .error fault) :
    S.Says (withClient S params database work) (withClient S.transcribed params database work') w
      (.error (.port fault)) [] w := by
  refine ⟨?_, fun past => ?_, .nil⟩
  · rw [withClient, connect, place]
  · have same : params.resolve (S.transcribed.environment ⟨w, past⟩) database = .error fault :=
      place
    rw [withClient, connect, same, List.append_nil]

variable (place : params.resolve (S.environment w) database = .ok target)

include place

theorem says_connect {answer : Except ClientFault Client}
    (met : S.connect target w = (answer, m)) :
    S.Says (connect S params database) (connect S.transcribed params database) w
      (answer.mapError (.server (.connect database))) [.connected target answer] m := by
  have said : S.Says (asking (.connect database) (S.connect target))
      (asking (.connect database) (S.transcribed.connect target)) w
      (answer.mapError (.server (.connect database))) [.connected target answer] m :=
    (System.says_noting (.connected target) met met).asking _
  refine ⟨?_, fun past => ?_, said.talk⟩
  · rw [connect, place]
    exact said.plain
  · have same : params.resolve (S.transcribed.environment ⟨w, past⟩) database = .ok target :=
      place
    rw [connect, same]
    exact said.noted past

theorem says_unconnected {fault : ClientFault} (met : S.connect target w = (.error fault, m)) :
    S.Says (withClient S params database work) (withClient S.transcribed params database work') w
      (.error (.server (.connect database) fault)) [.connected target (.error fault)] m := by
  have said := says_connect place met
  refine ⟨?_, fun past => ?_, said.talk⟩
  · rw [withClient, said.plain]
    rfl
  · rw [withClient, said.noted]
    rfl

/-- Work over a connection is said between connecting and disconnecting. -/
theorem says_withClient (met : S.connect target w = (.ok client, m))
    (said : S.Says (work client) (work' client) m r turns w') :
    S.Says (withClient S params database work) (withClient S.transcribed params database work') w
      r (.connected target (.ok client) :: turns ++ [.disconnected client])
      (S.disconnect client w') := by
  have first := says_connect place met
  refine ⟨?_, fun past => ?_, (first.talk.append said.talk).append (.single rfl)⟩
  · rw [withClient, first.plain]
    dsimp only [Except.mapError]
    rw [said.plain]
  · rw [withClient, first.noted]
    dsimp only [Except.mapError]
    rw [said.noted]
    simp [System.transcribed]

end Connected

end Live

end Testbed
