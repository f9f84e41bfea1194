import Mathlib.Data.List.Forall2
import Testbed.Proofs.Frame

/-!
# A run in parts

A run asks for the events of its operations one after the other. What is known of the events of
every operation, in the states that the run comes through, is known of the parts of the run.
-/

namespace Testbed

namespace Fixture

open Work

variable {σ Session α : Type} {p : Plan} {B : Backend σ Session} {I : Bench σ → Prop}
  {Φ Ψ : Event Session → Prop}

/-- From every bench with `I` the work is a course to a bench with `I`, and all its events satisfy
`Φ`. -/
def FollowsFrom (p : Plan) (B : Backend σ Session) (I : Bench σ → Prop) (Φ : Event Session → Prop)
    (w : Work σ α) : Prop :=
  ∀ b, I b → ∃ es, Course p B b es (w b).2 ∧ (∀ e ∈ es, Φ e) ∧ I (w b).2

theorem FollowsFrom.mono {w : Work σ α} (h : FollowsFrom p B I Φ w) (imp : ∀ e, Φ e → Ψ e) :
    FollowsFrom p B I Ψ w := by
  intro b start
  obtain ⟨es, course, all, stop⟩ := h b start
  exact ⟨es, course, fun e he => imp e (all e he), stop⟩

theorem Follows.keeping {w : Work σ α} (h : Follows p B Φ w) (keeps : Keeps I w) :
    FollowsFrom p B I Φ w := by
  intro b start
  obtain ⟨es, course, all⟩ := h b
  exact ⟨es, course, all, keeps b start⟩

theorem closed_followsFrom (p : Plan) (B : Backend σ Session) (Φ : Event Session → Prop)
    (log : ∀ r, Keeps I (tell r)) : Closed (FollowsFrom p B I Φ) where
  pure _ _ start := ⟨[], .nil, by simp, start⟩
  throw _ _ start := ⟨[], .nil, by simp, start⟩
  fixture _ start := ⟨[], .nil, by simp, start⟩
  look _ _ start := ⟨[], .nil, by simp, start⟩
  tell _ b start := ⟨[], .single (.told _), by simp, log _ b start⟩
  bind {_ _ w f} hw hf b start := by
    obtain ⟨es, first, hes, mid⟩ := hw b start
    rw [bind_apply]
    rcases h : w b with ⟨e | a, m⟩ <;> rw [h] at first mid
    · exact ⟨es, first, hes, mid⟩
    · obtain ⟨fs, second, hfs, stop⟩ := hf a m mid
      exact ⟨es ++ fs, first.append second, List.forall_mem_append.mpr ⟨hes, hfs⟩, stop⟩
  attempt hw := hw
  finally_ {_ w _} hw hl b start := by
    obtain ⟨es, first, hes, mid⟩ := hw b start
    obtain ⟨fs, second, hfs, stop⟩ := hl (w b).2 mid
    exact ⟨es ++ fs, first.append second, List.forall_mem_append.mpr ⟨hes, hfs⟩, stop⟩

end Fixture

namespace Operation

open Fixture

variable {σ Session : Type} {p : Plan} {B : Backend σ Session} {I : Bench σ → Prop}
  {Φ : Operation Session → Event Session → Prop}

/-- The events of a run are those of its operations in order. -/
theorem run_parts {ops : List (Operation Session)}
    (step : ∀ op ∈ ops, FollowsFrom p B I (Φ op) (op.perform p B)) {b : Bench σ} (start : I b) :
    ∃ parts, List.Forall₂ (fun op es => ∀ e ∈ es, Φ op e) ops parts ∧
      Course p B b parts.flatten (run p B ops b).2 ∧ I (run p B ops b).2 := by
  induction ops generalizing b with
  | nil => exact ⟨[], .nil, .nil, start⟩
  | cons op ops ih =>
    obtain ⟨first, others⟩ := List.forall_mem_cons.mp step
    obtain ⟨es, course, all, mid⟩ := first b start
    obtain ⟨parts, each, rest, stop⟩ := ih others mid
    exact ⟨es :: parts, .cons all each, course.append rest, stop⟩

/-- Every event of a run belongs to one of its operations. -/
theorem exists_of_mem_flatten {ops : List (Operation Session)} {parts : List (List (Event Session))}
    (each : List.Forall₂ (fun op es => ∀ e ∈ es, Φ op e) ops parts) :
    ∀ e ∈ parts.flatten, ∃ op ∈ ops, Φ op e := by
  induction each with
  | nil => exact nofun
  | @cons op es ops parts first _ ih =>
    rw [List.flatten_cons]
    refine List.forall_mem_append.mpr ⟨fun e mem => ⟨op, .head _, first e mem⟩, fun e mem => ?_⟩
    obtain ⟨other, given, allowed⟩ := ih e mem
    exact ⟨other, .tail _ given, allowed⟩

/-- The parts of a run are made of events that their operations allow. -/
theorem run_allows (p : Plan) (B : Backend σ Session) (ops : List (Operation Session))
    (b : Bench σ) :
    ∃ parts, List.Forall₂ (fun op es => ∀ e ∈ es, op.Allows p e) ops parts ∧
      Course p B b parts.flatten (run p B ops b).2 := by
  have step (op : Operation Session) :
      FollowsFrom p B (fun _ => True) (op.Allows p) (op.perform p B) :=
    (op.follows p B).keeping fun _ _ => trivial
  obtain ⟨parts, each, course, -⟩ := run_parts (fun op _ => step op) (trivial : True) (b := b)
  exact ⟨parts, each, course⟩

end Operation

namespace Fixture

/-- A run is a course, and its events are written down. -/
theorem run_course {σ Session : Type} {p : Plan} {B : Backend σ Session}
    (ops : List (Operation Session)) (b : Bench (Chronicle σ Session)) :
    ∃ es, Course p B.watched b es (Operation.run p B.watched ops b).2 ∧
      (Operation.run p B.watched ops b).2.world.events = b.world.events ++ es := by
  obtain ⟨parts, -, course⟩ := Operation.run_allows p B.watched ops b
  exact ⟨parts.flatten, course, (chain_watched course.chain).2⟩

end Fixture

end Testbed
