import BatchInbox.Proofs.Effect

/-!
# What a computation ensures

Whatever a computation does, it may keep an invariant of the states: it holds behind an error as well
as behind a result.  What is known of results and of errors is stated along with it, and does not
mention states, so that it still holds when the states have gone on.

This goes through the parts of a computation like tracking does, but for one computation at a time.

## What is here

* `Effect.Ends`, `Effect.Ensures` — what a computation ends with; `Effect.Keeps` — it keeps an
  invariant.
* `Effect.Ensures.bind` and its like — the parts of computations.
-/

set_option autoImplicit false
namespace BatchInbox
namespace Effect
variable {σ τ ε ε' α β : Type} {I : σ → Prop} {P : α → Prop} {E : ε → Prop}

/-- A state of `I`, with a result of `P` or an error of `E`. -/
inductive Ends (I : σ → Prop) (P : α → Prop) (E : ε → Prop) : Except ε α × σ → Prop where
  | ok {a : α} {s : σ} (h : P a) (hs : I s) : Ends I P E (.ok a, s)
  | error {e : ε} {s : σ} (h : E e) (hs : I s) : Ends I P E (.error e, s)

/-- From states of `I` the computation ends in such a state, with a result of `P` or an error of
`E`. -/
def Ensures (I : σ → Prop) (P : α → Prop) (E : ε → Prop) (e : Effect σ ε α) : Prop :=
  ∀ s, I s → Ends I P E (e.step s)

/-- Whatever it ends with, the computation keeps an invariant. -/
abbrev Keeps (I : σ → Prop) (e : Effect σ ε α) : Prop :=
  e.Ensures I (fun _ => True) fun _ => True

namespace Ensures
variable {e : Effect σ ε α}

/-! ## Ends -/

theorem of_ok (h : e.Ensures I P E) {s s' : σ} {a : α} (hs : I s)
    (hstep : e.step s = (.ok a, s')) : P a ∧ I s' := by
  have hends := h s hs
  rw [hstep] at hends
  cases hends with
  | ok ha hs' => exact ⟨ha, hs'⟩

theorem of_error (h : e.Ensures I P E) {s s' : σ} {err : ε} (hs : I s)
    (hstep : e.step s = (.error err, s')) : E err := by
  have hends := h s hs
  rw [hstep] at hends
  cases hends with
  | error he => exact he

/-- A computation without errors has a result. -/
theorem exists_ok (h : e.Ensures I P fun _ => False) {s : σ} (hs : I s) :
    ∃ a s', e.step s = (.ok a, s') ∧ P a ∧ I s' := by
  have hends := h s hs
  generalize e.step s = r at hends
  cases hends with
  | ok ha hs' => exact ⟨_, _, rfl, ha, hs'⟩
  | error he => exact he.elim

theorem state (h : e.Ensures I P E) {s : σ} (hs : I s) : I (e.step s).2 := by
  have hends := h s hs
  generalize e.step s = r at hends
  cases hends with
  | ok _ hs' => exact hs'
  | error _ hs' => exact hs'

/-- What is ensured may be said with less. -/
theorem mono (h : e.Ensures I P E) {P' : α → Prop} {E' : ε → Prop} (hP : ∀ a, P a → P' a)
    (hE : ∀ err, E err → E' err) : e.Ensures I P' E' := by
  intro s hs
  have hends := h s hs
  generalize e.step s = r at hends ⊢
  cases hends with
  | ok ha hs' => exact .ok (hP _ ha) hs'
  | error he hs' => exact .error (hE _ he) hs'

/-- What is known of results is ensured, if nothing is asked of states and errors. -/
theorem of_forall (h : ∀ s a s', e.step s = (.ok a, s') → P a) :
    e.Ensures (fun _ => True) P fun _ => True := by
  intro s _
  rcases hstep : e.step s with ⟨err | a, s'⟩
  · exact .error trivial trivial
  · exact .ok (h s a s' hstep) trivial

/-! ## Parts -/

theorem pure {a : α} (h : P a) : (pure a : Effect σ ε α).Ensures I P E :=
  fun _ hs => .ok h hs

theorem throw {err : ε} (h : E err) : (throw err : Effect σ ε α).Ensures I P E :=
  fun _ hs => .error h hs

theorem get : (get : Effect σ ε σ).Ensures I I E :=
  fun _ hs => .ok hs hs

theorem modify {f : σ → σ} (h : ∀ s, I s → I (f s)) :
    (modify f : Effect σ ε PUnit).Ensures I (fun _ => True) E :=
  fun s hs => .ok trivial (h s hs)

/-- **A computation that goes on** ensures what its second part does, for the results of the first
one. -/
theorem bind {Q : β → Prop} {f : α → Effect σ ε β} (h : e.Ensures I P E)
    (hf : ∀ a, P a → (f a).Ensures I Q E) : (e >>= f).Ensures I Q E := by
  intro s hs
  have hends := h s hs
  rw [step_bind]
  generalize e.step s = r at hends ⊢
  cases hends with
  | ok ha hs' => exact hf _ ha _ hs'
  | error he hs' => exact .error he hs'

theorem mapError {E' : ε' → Prop} {f : ε → ε'} (h : e.Ensures I P E) (hf : ∀ err, E err → E' (f err)) :
    (e.mapError f).Ensures I P E' := by
  intro s hs
  have hends := h s hs
  rw [step_mapError]
  generalize e.step s = r at hends ⊢
  cases hends with
  | ok ha hs' => exact .ok ha hs'
  | error he hs' => exact .error (hf _ he) hs'

/-- A computation on a part keeps an invariant of the whole, if that says what the part needs and
allows what the part becomes. -/
theorem zoom {J : τ → Prop} {get : τ → σ} {set : σ → τ → τ} (h : e.Ensures I P E)
    (hget : ∀ t, J t → I (get t)) (hset : ∀ s t, J t → I s → J (set s t)) :
    (e.zoom get set).Ensures J P E := by
  intro t ht
  have hends := h (get t) (hget t ht)
  rw [step_zoom]
  generalize e.step (get t) = r at hends ⊢
  cases hends with
  | ok ha hs' => exact .ok ha (hset _ t ht hs')
  | error he hs' => exact .error he (hset _ t ht hs')

/-- A computation on the first part leaves the second one alone. -/
theorem onFst {J : τ → Prop} (h : e.Ensures (fun _ => True) P E) :
    (e.onFst : Effect (σ × τ) ε α).Ensures (fun s => J s.2) P E :=
  h.zoom (fun _ _ => trivial) fun _ _ ht _ => ht

theorem attempt {E' : ε' → Prop} (h : e.Ensures I P E) :
    (e.attempt : Effect σ ε' (Except ε α)).Ensures I (fun r => ∀ a, r = .ok a → P a) E' := by
  intro s hs
  have hends := h s hs
  rw [step_attempt]
  generalize e.step s = r at hends ⊢
  cases hends with
  | ok ha hs' => exact .ok (fun _ heq => Except.ok.inj heq ▸ ha) hs'
  | error _ hs' => exact .ok nofun hs'

end Ensures
end Effect
end BatchInbox
