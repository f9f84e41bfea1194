import Testbed.Config.File
import Testbed.Proofs.Entries
import Testbed.Proofs.JsonValue

/-!
# Settings from JSON values

Reading settings from the document of a value depends on nothing but the value. Members and values
are read one by one, at the place where the events of the ones before end.
-/

namespace Testbed

namespace Json

open Document (Survey)

/-! ## Surveys -/

/-- How many collections are open behind an event inside so many, where no collection is accepted. -/
def openedBy (nesting opened : Nat) : Document.Event → Except Problem Nat
  | .scalar s => s.meaning.map fun _ => opened
  | .openSequence tagged | .openMapping tagged =>
    if tagged || nesting ≤ opened then .error .syntaxError else .ok (opened + 1)
  | .close => .ok (opened - 1)
  | .nothing | .reference _ => .error .syntaxError

/-- The problem with events inside so many collections, up to where all of them are closed. -/
def skim (nesting : Nat) : Nat → List Document.Event → Problem
  | _, [] => .syntaxError
  | opened, e :: rest =>
    match openedBy nesting opened e with
    | .error problem => problem
    | .ok inside => if inside = 0 then .wrongType else skim nesting inside rest

/-- No event refers to another. -/
def Plain (events : List Document.Event) : Prop :=
  ∀ e ∈ events, ∀ target, e ≠ .reference target

def eventsAt (d : Document) (position : Nat) : List Document.Event :=
  d.events.toList.drop position

section Places

variable {d : Document} {position : Nat} {e : Document.Event} {rest : List Document.Event}

theorem getElem?_eq_head? (d : Document) (position : Nat) :
    d.events[position]? = (eventsAt d position).head? := by
  rw [eventsAt, List.head?_drop, Array.getElem?_toList]

theorem getElem?_of_eventsAt (h : eventsAt d position = e :: rest) :
    d.events[position]? = some e := by
  rw [getElem?_eq_head?, h, List.head?_cons]

theorem eventsAt_succ (h : eventsAt d position = e :: rest) : eventsAt d (position + 1) = rest := by
  have tail := congrArg List.tail h
  rwa [eventsAt, List.tail_drop] at tail

theorem mem_of_eventsAt (h : eventsAt d position = e :: rest) : e ∈ d.events.toList := by
  have mem : e ∈ eventsAt d position := h ▸ List.mem_cons_self
  exact List.mem_of_mem_drop mem

def surveyAt (position opened followed : Nat) : Survey :=
  ⟨position, List.replicate opened .collection, opened, followed⟩

theorem leave_surveyAt (position opened followed : Nat) :
    (surveyAt position opened followed).leave = surveyAt position opened followed := by
  unfold surveyAt
  cases opened <;> rw [Survey.leave] <;> intros <;> rename_i same <;> cases same

/-- A step of a survey goes past one event. -/
theorem step_surveyAt (opened followed : Nat) (found : d.events[position]? = some e)
    (plain : ∀ target, e ≠ .reference target) :
    (surveyAt position opened followed).step d =
      (openedBy d.nesting opened e).map fun inside => surveyAt (position + 1) inside followed := by
  have left := leave_surveyAt (position + 1)
  unfold surveyAt at left ⊢
  unfold Survey.step
  cases e with
  | scalar s =>
    simp only [found, openedBy]
    cases s.meaning with
    | error => rfl
    | ok => exact congrArg _ (left opened followed)
  | openSequence tagged | openMapping tagged =>
    simp only [found, openedBy]
    split <;> rfl
  | close =>
    simp only [found, openedBy, List.tail_replicate, left]
    rfl
  | nothing =>
    simp only [found]
    rfl
  | reference target => exact absurd rfl (plain target)

/-- A survey goes through the events from where it starts. -/
theorem surveyFrom_eq_skim (plain : Plain d.events.toList) {fuel : Nat} (opened followed : Nat)
    (enough : (eventsAt d position).length < fuel) :
    Document.surveyFrom d fuel (surveyAt position opened followed) =
      skim d.nesting opened (eventsAt d position) := by
  -- Every step takes one event off what is left of the document, because there are no references.
  induction fuel generalizing position opened with
  | zero => cases enough
  | succ fuel ih =>
    rw [Document.surveyFrom]
    cases here : eventsAt d position with
    | nil =>
      have ended : d.events[position]? = none := by
        rw [getElem?_eq_head?, here, List.head?_nil]
      simp only [surveyAt, Survey.step, ended, skim]
    | cons e rest =>
      have shorter : (eventsAt d (position + 1)).length < fuel := by
        rw [eventsAt_succ here]
        rw [here] at enough
        exact Nat.lt_of_succ_lt_succ enough
      rw [step_surveyAt opened followed (getElem?_of_eventsAt here)
        (plain e (mem_of_eventsAt here)), skim]
      cases openedBy d.nesting opened e with
      | error => rfl
      | ok inside =>
        simp only [Except.map]
        rw [ih inside shorter, eventsAt_succ here]
        cases inside <;> rfl

end Places

theorem plain_follow {first behind : Stretch} (front : Plain first.1)
    (back : Plain behind.1) : Plain (follow first behind).1 := by
  unfold follow
  split
  · intro e mem
    rcases List.mem_append.mp mem with mem | mem
    · exact front e mem
    · exact back e mem
  · exact front

theorem plain_nil : Plain [] := by
  intro e mem
  cases mem

theorem plain_single (e : Document.Event) (h : ∀ target, e ≠ .reference target) : Plain [e] := by
  intro e' mem
  rwa [List.mem_singleton.mp mem]

mutual

/-- Values do not refer to others. -/
theorem plain_events (v : Value) (depth : Nat) : Plain (v.events depth).1 := by
  cases v with
  | number n =>
    rw [Value.events, Number.events]
    split
    · exact plain_single (.scalar _) nofun
    · split
      · exact plain_single (.scalar _) nofun
      · exact plain_nil
  | array vs =>
    have inside := plain_elementEvents vs (depth + 1)
    rw [Value.events]
    split
    · exact plain_nil
    · exact plain_follow (plain_single (.openSequence false) nofun) inside
  | object ms =>
    have inside := plain_memberEvents ms (depth + 1)
    rw [Value.events]
    split
    · exact plain_nil
    · exact plain_follow (plain_single (.openMapping false) nofun) inside
  | _ => exact plain_single (.scalar _) nofun

theorem plain_elementEvents (vs : List Value) (depth : Nat) :
    Plain (elementEvents depth vs).1 := by
  cases vs with
  | nil => exact plain_single .close nofun
  | cons v vs => exact plain_follow (plain_events v depth) (plain_elementEvents vs depth)

theorem plain_memberEvents (ms : List (String × Value)) (depth : Nat) :
    Plain (memberEvents depth ms).1 := by
  cases ms with
  | nil => exact plain_single .close nofun
  | cons m ms =>
    obtain ⟨key, v⟩ := m
    have others := plain_follow (plain_events v depth) (plain_memberEvents ms depth)
    exact plain_follow (plain_single (.scalar (stringScalar key)) nofun) others

end

/-- A survey goes into a collection unless too many are open. -/
theorem skim_open {opened : Nat} (shallow : ¬ nestingLimit ≤ opened + 1)
    {e : Document.Event} (opens : e = .openSequence false ∨ e = .openMapping false)
    (rest : List Document.Event) :
    skim (nestingLimit - 1) opened (e :: rest) = skim (nestingLimit - 1) (opened + 1) rest := by
  have room : ¬ nestingLimit - 1 ≤ opened := by
    unfold nestingLimit at *
    omega
  rcases opens with rfl | rfl <;> simp [skim, openedBy, room]

theorem follow_complete (first behind : Stretch) :
    (follow first behind).2 = (first.2 && behind.2) := by
  unfold follow
  split <;> simp_all

mutual

/-- A survey of a value that can be read ends with it, or goes on behind it. -/
theorem skim_value (v : Value) (opened : Nat) (behind : Stretch) :
    skim (nestingLimit - 1) opened (follow (v.events (opened + 1)) behind).1 =
      if (v.events (opened + 1)).2 then
        if opened = 0 then .wrongType else skim (nestingLimit - 1) opened behind.1
      else .syntaxError := by
  cases v with
  | number n =>
    rw [Value.events, Number.events]
    split
    · rfl
    · split <;> rfl
  | array vs =>
    have inside := skim_elements vs opened behind
    rw [Value.events]
    by_cases deep : nestingLimit ≤ opened + 1
    · rw [if_pos deep]
      rfl
    · rw [if_neg deep, follow_assoc]
      exact (skim_open deep (.inl rfl) _).trans inside
  | object ms =>
    have inside := skim_members ms opened behind
    rw [Value.events]
    by_cases deep : nestingLimit ≤ opened + 1
    · rw [if_pos deep]
      rfl
    · rw [if_neg deep, follow_assoc]
      exact (skim_open deep (.inr rfl) _).trans inside
  | _ => rfl

theorem skim_elements (vs : List Value) (opened : Nat) (behind : Stretch) :
    skim (nestingLimit - 1) (opened + 1) (follow (elementEvents (opened + 2) vs) behind).1 =
      if (elementEvents (opened + 2) vs).2 then
        if opened = 0 then .wrongType else skim (nestingLimit - 1) opened behind.1
      else .syntaxError := by
  cases vs with
  | nil => rfl
  | cons v vs =>
    rw [elementEvents, follow_assoc, skim_value, skim_elements, follow_complete,
      if_neg (Nat.succ_ne_zero opened)]
    cases (v.events (opened + 2)).2 <;> rfl

theorem skim_members (ms : List (String × Value)) (opened : Nat) (behind : Stretch) :
    skim (nestingLimit - 1) (opened + 1) (follow (memberEvents (opened + 2) ms) behind).1 =
      if (memberEvents (opened + 2) ms).2 then
        if opened = 0 then .wrongType else skim (nestingLimit - 1) opened behind.1
      else .syntaxError := by
  cases ms with
  | nil => rfl
  | cons m ms =>
    obtain ⟨key, v⟩ := m
    have keyed (behind : Stretch) :
        skim (nestingLimit - 1) (opened + 1)
            (follow ([.scalar (stringScalar key)], true) behind).1 =
          skim (nestingLimit - 1) (opened + 1) behind.1 :=
      rfl
    rw [memberEvents, follow_assoc, follow_assoc, keyed, skim_value, skim_members,
      follow_complete, follow_complete, if_neg (Nat.succ_ne_zero opened)]
    cases (v.events (opened + 2)).2 <;> rfl

end

theorem follow_cons {first : Stretch} {e : Document.Event} {rest : List Document.Event}
    (h : first.1 = e :: rest) (behind : Stretch) :
    ∃ others, (follow first behind).1 = e :: others := by
  unfold follow
  split
  · exact ⟨rest ++ behind.1, by rw [h, List.cons_append]⟩
  · exact ⟨rest, h⟩

/-- A value begins with nothing that can be read, a scalar or a collection. -/
theorem events_cases (v : Value) {depth : Nat} (shallow : depth < nestingLimit) :
    v.events depth = ([], false) ∨ (∃ s, v.events depth = ([.scalar s], true)) ∨
      ∃ e rest, (v.events depth).1 = e :: rest ∧
        (e = .openSequence false ∨ e = .openMapping false) := by
  cases v with
  | number n =>
    rw [Value.events, Number.events]
    split
    · exact .inr (.inl ⟨_, rfl⟩)
    · split
      · exact .inr (.inl ⟨_, rfl⟩)
      · exact .inl rfl
  | array vs =>
    rw [Value.events, if_neg (Nat.not_le.mpr shallow)]
    exact .inr (.inr ⟨_, _, rfl, .inl rfl⟩)
  | object ms =>
    rw [Value.events, if_neg (Nat.not_le.mpr shallow)]
    exact .inr (.inr ⟨_, _, rfl, .inr rfl⟩)
  | _ => exact .inr (.inl ⟨_, rfl⟩)

end Json

namespace Config

open Json (Value Stretch eventsAt follow)

/-! ## Readers -/

def Field.take (f : Field) (v : Value) : Except Problem Entry :=
  match (v.events 1).1.head? with
  | none => .error .syntaxError
  | some (.scalar s) => f.ofScalar s
  | some _ => .error (if f = .port ∧ (v.events 1).2 = false then .syntaxError else .wrongType)

/-- The configuration with the settings of members that are not among those seen. -/
def takeMembers : List Field → Config → List (String × Value) → Except Problem Config
  | _, c, [] => .ok c
  | seen, c, (key, v) :: ms =>
    match Field.ofKey? key with
    | none => .error (.unknownField key)
    | some f =>
      if f ∈ seen then .error (.duplicateField key)
      else (f.take v).bind fun e => takeMembers (f :: seen) (c.assign e) ms

def takeValues : List Field → Config → List Value → Except Problem Config
  | _, c, [] => .ok c
  | [], _, _ :: _ => .error .syntaxError
  | f :: fields, c, v :: vs => (f.take v).bind fun e => takeValues fields (c.assign e) vs

/-- A reader comes to what the value says, and ends where it should. -/
def Reads {α : Type} (read : Except Problem (α × Cursor)) (taken : Except Problem α)
    (ends : Cursor → Prop) : Prop :=
  match taken with
  | .error problem => read = .error problem
  | .ok a => ∃ next, read = .ok (a, next) ∧ ends next

theorem Reads.bind {α β : Type} {read : Except Problem (α × Cursor)} {taken : Except Problem α}
    {ends ends' : Cursor → Prop} {more : α × Cursor → Except Problem (β × Cursor)}
    {others : α → Except Problem β} (h : Reads read taken ends)
    (go : ∀ a next, ends next → Reads (more (a, next)) (others a) ends') :
    Reads (read >>= more) (taken.bind others) ends' := by
  cases taken with
  | error p =>
    obtain rfl : read = .error p := h
    rfl
  | ok a =>
    obtain ⟨next, rfl, here⟩ := h
    exact go a next here

/-- A document without references, in which as many collections may be open as in one of a value. -/
structure Flat (d : Document) : Prop where
  plain : Json.Plain d.events.toList
  nesting : d.nesting = Json.nestingLimit - 1

section Readers

variable {d : Document} {here : Cursor}

theorem readNode_eq (flat : Flat d) {e : Document.Event} {rest : List Document.Event}
    (h : eventsAt d here.position = e :: rest) :
    readNode d here = .ok (⟨e, here.position⟩, { here with position := here.position + 1 }) := by
  have found := Json.getElem?_of_eventsAt h
  have plain := flat.plain e (Json.mem_of_eventsAt h)
  unfold readNode
  rw [found]
  cases e with
  | reference target => exact absurd rfl (plain target)
  | _ => rfl

theorem survey_eq_skim (flat : Flat d) (position followed : Nat) :
    d.survey position followed = Json.skim (Json.nestingLimit - 1) 0 (eventsAt d position) := by
  have enough : (eventsAt d position).length < (d.references + 1) * (d.events.size + 1) := by
    have short : (eventsAt d position).length ≤ d.events.size := by
      simp [eventsAt]
    have := Nat.le_mul_of_pos_left (d.events.size + 1) (by omega : 0 < d.references + 1)
    omega
  rw [← flat.nesting]
  exact Json.surveyFrom_eq_skim flat.plain 0 followed enough

theorem collectionProblem_eq (flat : Flat d) (f : Field) (v : Value) (behind : Stretch)
    (h : eventsAt d here.position = (follow (v.events 1) behind).1) (e : Document.Event)
    (followed : Nat) :
    f.collectionProblem d ⟨e, here.position⟩ followed =
      if f = .port ∧ (v.events 1).2 = false then .syntaxError else .wrongType := by
  cases f with
  | port =>
    rw [Field.collectionProblem, survey_eq_skim flat, h, Json.skim_value]
    cases (v.events 1).2 <;> rfl
  | _ => rfl

/-- A value is read as the value says, and reading goes on behind it. -/
theorem reads_value (flat : Flat d) (f : Field) (v : Value) (behind : Stretch)
    (h : eventsAt d here.position = (follow (v.events 1) behind).1) :
    Reads (f.read d here) (f.take v) fun next =>
      (v.events 1).2 = true ∧ eventsAt d next.position = behind.1 := by
  rcases Json.events_cases v (by decide : 1 < Json.nestingLimit) with
    missing | ⟨s, scalar⟩ | ⟨e, rest, opens, collection⟩
  · -- A number that is too large ends the document in front of it.
    have ended : d.events[here.position]? = none := by
      rw [Json.getElem?_eq_head?, h, missing]
      rfl
    rw [Field.take, missing]
    simp only [Reads, List.head?_nil, Field.read, readNode, ended]
    rfl
  · have found : eventsAt d here.position = .scalar s :: behind.1 := by
      rw [h, scalar]
      rfl
    rw [Field.take, scalar]
    simp only [List.head?_cons, Field.read, readNode_eq flat found]
    change Reads ((f.ofScalar s).bind fun e =>
      .ok (e, { here with position := here.position + 1 })) _ _
    cases f.ofScalar s with
    | error => rfl
    | ok => exact ⟨_, rfl, trivial, Json.eventsAt_succ found⟩
  · obtain ⟨others, found⟩ := Json.follow_cons opens behind
    rw [← h] at found
    have problem := collectionProblem_eq flat f v behind h e here.followed
    rw [Field.take, opens]
    rcases collection with rfl | rfl
    · simp only [List.head?_cons, Field.read, readNode_eq flat found, ← problem]
      rfl
    · simp only [List.head?_cons, Field.read, readNode_eq flat found, ← problem]
      rfl

/-- A member is read by its key, and then by its value. -/
theorem readMembers_key (flat : Flat d) {key : String} {rest : List Document.Event}
    (h : eventsAt d here.position = .scalar (Json.stringScalar key) :: rest) (fuel : Nat)
    (seen : List Field) (c : Config) :
    readMembers (fuel + 1) seen c d here =
      (Field.ofKey? key).elim (.error (.unknownField key)) fun f =>
        if f ∈ seen then .error (.duplicateField key)
        else f.read d { here with position := here.position + 1 } >>= fun r =>
          readMembers fuel (f :: seen) (c.assign r.1) d r.2 := by
  simp only [readMembers, readNode_eq flat h, Json.stringScalar, bind, Except.bind]
  cases Field.ofKey? key <;> rfl

/-- Members are read as they say, up to the end of the object. -/
theorem reads_members (flat : Flat d) (ms : List (String × Value)) {fuel : Nat}
    (enough : (eventsAt d here.position).length ≤ fuel) (seen : List Field) (c : Config)
    (h : eventsAt d here.position = (Json.memberEvents 1 ms).1) :
    Reads (readMembers fuel seen c d here) (takeMembers seen c ms) fun _ =>
      (Json.memberEvents 1 ms).2 = true := by
  induction ms generalizing here fuel seen c with
  | nil =>
    cases fuel with
    | zero =>
      rw [h] at enough
      cases enough
    | succ fuel =>
      refine ⟨{ here with position := here.position + 1 }, ?_, rfl⟩
      simp only [readMembers, readNode_eq flat h]
      rfl
  | cons m ms ih =>
    obtain ⟨key, v⟩ := m
    cases fuel with
    | zero =>
      rw [h] at enough
      cases enough
    | succ fuel =>
      rw [readMembers_key flat h, takeMembers]
      cases Field.ofKey? key with
      | none => rfl
      | some f =>
        dsimp only [Option.elim]
        split
        · rfl
        · apply Reads.bind (reads_value flat f v _ (Json.eventsAt_succ h))
          rintro e next ⟨complete, behind⟩
          -- A member has an event for its key at least, so the fuel lasts.
          have shorter : (eventsAt d next.position).length ≤ fuel := by
            rw [h] at enough
            rw [behind]
            simp only [Json.memberEvents, follow, complete, if_true, List.length_append,
              List.length_singleton] at enough
            omega
          have same : (Json.memberEvents 1 ((key, v) :: ms)).2 = (Json.memberEvents 1 ms).2 := by
            rw [Json.memberEvents, Json.follow_complete, Json.follow_complete, complete]
            rfl
          rw [same]
          exact ih shorter (f :: seen) (c.assign e) behind

theorem readValues_cons (f : Field) (fields : List Field) (c : Config)
    (begins : d.events[here.position]? ≠ some .close) :
    readValues (f :: fields) c d here =
      f.read d here >>= fun r => readValues fields (c.assign r.1) d r.2 := by
  rw [readValues]
  split
  · rename_i missing
    simp only [Field.read, readNode, missing]
    rfl
  · rename_i ended
    exact absurd ended begins
  · rfl

theorem begins_value (v : Value) (behind : Stretch)
    (h : eventsAt d here.position = (follow (v.events 1) behind).1) :
    d.events[here.position]? ≠ some .close := by
  intro ended
  rw [Json.getElem?_eq_head?, h] at ended
  rcases Json.events_cases v (by decide : 1 < Json.nestingLimit) with
    missing | ⟨s, scalar⟩ | ⟨e, rest, opens, collection⟩
  · rw [missing] at ended
    cases ended
  · rw [scalar] at ended
    cases ended
  · obtain ⟨others, found⟩ := Json.follow_cons opens behind
    rw [found] at ended
    rcases collection with rfl | rfl <;> cases ended

/-- Values are read as they say, up to the end of the array. -/
theorem reads_values (flat : Flat d) (vs : List Value) (fields : List Field) (c : Config)
    (h : eventsAt d here.position = (Json.elementEvents 1 vs).1) :
    Reads (readValues fields c d here) (takeValues fields c vs) fun _ =>
      (Json.elementEvents 1 vs).2 = true := by
  induction vs generalizing here fields c with
  | nil =>
    have ended : d.events[here.position]? = some .close := Json.getElem?_of_eventsAt h
    have taken : takeValues fields c [] = .ok c := by
      cases fields <;> rfl
    unfold readValues
    rw [taken, ended]
    exact ⟨{ here with position := here.position + 1 }, rfl, rfl⟩
  | cons v vs ih =>
    have begins := begins_value v _ h
    cases fields with
    | nil =>
      rw [readValues, takeValues]
      split
      · rfl
      · rename_i ended
        exact absurd ended begins
      · rfl
    | cons f fields =>
      rw [readValues_cons f fields c begins, takeValues]
      apply Reads.bind (reads_value flat f v _ h)
      rintro e next ⟨complete, behind⟩
      have same : (Json.elementEvents 1 (v :: vs)).2 = (Json.elementEvents 1 vs).2 := by
        rw [Json.elementEvents, Json.follow_complete, complete]
        rfl
      rw [same]
      exact ih fields (c.assign e) behind

end Readers

/-! ## Documents -/

theorem flat_document {text : String} {v : Value} (h : Json.Spells text v) :
    Flat (Json.document text) := by
  rw [Json.document_of_spells h]
  exact ⟨by simpa using Json.plain_events v 0, rfl⟩

theorem ofDocument_of_reads {d : Document} {taken : Except Problem Config}
    (h : Reads (readRoot d {}) taken fun _ => d.complete = true) : ofDocument d = taken := by
  unfold ofDocument
  cases taken with
  | error p =>
    have same : readRoot d {} = .error p := h
    rw [same]
    rfl
  | ok c =>
    obtain ⟨next, same, complete⟩ := h
    rw [same]
    exact if_pos complete

/-- The document of an object gives what its members say. -/
theorem ofDocument_object {text : String} {ms : List (String × Value)}
    (h : Json.Spells text (.object ms)) :
    ofDocument (Json.document text) = takeMembers [] {} ms := by
  have flat := flat_document h
  have begins : eventsAt (Json.document text) ({} : Cursor).position =
      .openMapping false :: (Json.memberEvents 1 ms).1 := by
    rw [Json.document_of_spells h]
    rfl
  have complete : (Json.document text).complete = (Json.memberEvents 1 ms).2 := by
    rw [Json.document_of_spells h]
    rfl
  have inside := Json.eventsAt_succ begins
  apply ofDocument_of_reads
  rw [complete]
  unfold readRoot
  rw [readNode_eq flat begins]
  exact reads_members flat ms (by simp [eventsAt]) [] {} inside

/-- The document of an array gives what its values say. -/
theorem ofDocument_array {text : String} {vs : List Value} (h : Json.Spells text (.array vs)) :
    ofDocument (Json.document text) = takeValues Field.all {} vs := by
  have flat := flat_document h
  have begins : eventsAt (Json.document text) ({} : Cursor).position =
      .openSequence false :: (Json.elementEvents 1 vs).1 := by
    rw [Json.document_of_spells h]
    rfl
  have complete : (Json.document text).complete = (Json.elementEvents 1 vs).2 := by
    rw [Json.document_of_spells h]
    rfl
  have positional : (Json.document text).positional = true := by
    rw [Json.document_of_spells h]
  have inside := Json.eventsAt_succ begins
  apply ofDocument_of_reads
  rw [complete]
  have root : readRoot (Json.document text) {} =
      readValues Field.all {} (Json.document text) { position := 1 } := by
    unfold readRoot
    simp only [readNode_eq flat begins, positional]
    rfl
  rw [root]
  exact reads_values flat vs Field.all {} inside

end Config

end Testbed
