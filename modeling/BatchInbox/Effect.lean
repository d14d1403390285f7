/-!
# Computations with a state

What a computation asks of the outside (execution clients, beacon nodes, the disk) is a step of a
state of any type, so that one can say what it asks for and what it leaves behind.  The state
survives an error.
-/

set_option autoImplicit false
namespace BatchInbox

/-- A computation over states of type `σ` that may fail with an `ε`. -/
abbrev Effect (σ ε α : Type) := ExceptT ε (StateM σ) α

namespace Effect
variable {σ τ ε ε' α : Type}

/-- The computation given by its steps. -/
def ofStep (step : σ → Except ε α × σ) : Effect σ ε α := step

/-- The result of a computation, and the state behind it. -/
def step (e : Effect σ ε α) (s : σ) : Except ε α × σ := e s

/-- The computation with its errors renamed. -/
def mapError (f : ε → ε') (e : Effect σ ε α) : Effect σ ε' α :=
  ofStep fun s =>
    match e.step s with
    | (.ok a, s) => (.ok a, s)
    | (.error err, s) => (.error (f err), s)

/-- The computation on a part of a larger state. -/
def zoom (get : τ → σ) (set : σ → τ → τ) (e : Effect σ ε α) : Effect τ ε α :=
  ofStep fun t =>
    let (result, s) := e.step (get t)
    (result, set s t)

/-- The computation on the first part of a pair. -/
def onFst (e : Effect σ ε α) : Effect (σ × τ) ε α := e.zoom (·.1) fun s t => (s, t.2)

/-- The result of a computation, errors and all. -/
def attempt (e : Effect σ ε α) : Effect σ ε' (Except ε α) :=
  ofStep fun s =>
    let (result, s) := e.step s
    (.ok result, s)

end Effect
end BatchInbox
