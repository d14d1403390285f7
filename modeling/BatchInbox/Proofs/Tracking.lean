import BatchInbox.Proofs.Effect
import Mathlib.Data.List.Forall2

/-!
# Two computations side by side

To compare two computations, one says which of their states belong together, and which of their
results.  A computation tracks another one if, from states that belong together, both end in the same
way, with results and states that belong together again.  This goes through the parts of a
computation, so computations that are put together alike track each other if their parts do.

Sometimes only the results of the first computation matter, and its errors excuse everything: then
the tracking is lenient.

## What is here

* `Alike` — results that belong together.
* `Effect.EndsLike`, `Effect.Tracks` — computations that end alike.
* `Effect.Tracks.bind` and its like — the parts of computations.
-/

set_option autoImplicit false
namespace BatchInbox

/-- Results that belong together: values that do, or the same error.  If `lenient`, the first may be
an error and the second anything. -/
inductive Alike (lenient : Prop) {ε α β : Type} (P : α → β → Prop) :
    Except ε α → Except ε β → Prop where
  | ok {a : α} {b : β} (h : P a b) : Alike lenient P (.ok a) (.ok b)
  | error (e : ε) : Alike lenient P (.error e) (.error e)
  | excused (h : lenient) (e : ε) (r : Except ε β) : Alike lenient P (.error e) r

namespace Alike
variable {lenient : Prop} {ε α β α' β' : Type} {P : α → β → Prop} {Q : α' → β' → Prop}

theorem map {r : Except ε α} {r' : Except ε β} (h : Alike lenient P r r') {f : α → α'}
    {f' : β → β'} (hf : ∀ a b, P a b → Q (f a) (f' b)) :
    Alike lenient Q (r.map f) (r'.map f') := by
  cases h with
  | ok h => exact .ok (hf _ _ h)
  | error e => exact .error e
  | excused h e r => exact .excused h e _

theorem refl (r : Except ε α) : Alike lenient Eq r r := by
  cases r with
  | error e => exact .error e
  | ok a => exact .ok rfl

/-- A value has one that belongs to it. -/
theorem exists_of_ok {a : α} {r' : Except ε β} (h : Alike lenient P (.ok a) r') :
    ∃ b, r' = .ok b ∧ P a b := by
  cases h with
  | ok h => exact ⟨_, rfl, h⟩

/-- Strictly, equal values are equal results. -/
theorem eq {r r' : Except ε α} (h : Alike False Eq r r') : r = r' := by
  cases h with
  | ok h => rw [h]
  | error e => rfl
  | excused h => exact h.elim

end Alike

namespace Effect
variable {lenient : Prop} {σ τ ε ε' α β α' β' : Type} {R : σ → τ → Prop} {P : α → β → Prop}

/-- Two computations end alike, in states that belong together unless the first one's error is
excused. -/
inductive EndsLike (lenient : Prop) (R : σ → τ → Prop) (P : α → β → Prop) :
    Except ε α × σ → Except ε β × τ → Prop where
  | ok {a : α} {b : β} {s : σ} {t : τ} (h : P a b) (hs : R s t) :
    EndsLike lenient R P (.ok a, s) (.ok b, t)
  | error (e : ε) {s : σ} {t : τ} (hs : R s t) : EndsLike lenient R P (.error e, s) (.error e, t)
  | excused (h : lenient) (e : ε) (s : σ) (r : Except ε β × τ) :
    EndsLike lenient R P (.error e, s) r

theorem EndsLike.alike {r : Except ε α × σ} {r' : Except ε β × τ} (h : EndsLike lenient R P r r') :
    Alike lenient P r.1 r'.1 := by
  cases h with
  | ok h => exact .ok h
  | error e => exact .error e
  | excused h e => exact .excused h e _

/-- Strictly, the states belong together in any case. -/
theorem EndsLike.states {r : Except ε α × σ} {r' : Except ε β × τ} (h : EndsLike False R P r r') :
    R r.2 r'.2 := by
  cases h with
  | ok _ hs => exact hs
  | error _ hs => exact hs
  | excused h => exact h.elim

/-- From states that belong together, both computations end alike. -/
def Tracks (lenient : Prop) (R : σ → τ → Prop) (P : α → β → Prop) (e : Effect σ ε α)
    (e' : Effect τ ε β) : Prop :=
  ∀ s t, R s t → EndsLike lenient R P (e.step s) (e'.step t)

namespace Tracks
variable {e : Effect σ ε α} {e' : Effect τ ε β}

/-- Every computation tracks itself. -/
theorem refl (e : Effect σ ε α) : Tracks lenient Eq Eq e e := by
  rintro s _ rfl
  rcases e.step s with ⟨err | a, s'⟩
  · exact .error err rfl
  · exact .ok rfl rfl

theorem pure {a : α} {b : β} (h : P a b) :
    Tracks lenient R P (pure a : Effect σ ε α) (pure b) :=
  fun _ _ hst => .ok h hst

theorem throw (err : ε) : Tracks lenient R P (throw err : Effect σ ε α) (throw err) :=
  fun _ _ hst => .error err hst

theorem get : Tracks lenient R R (get : Effect σ ε σ) get :=
  fun _ _ hst => .ok hst hst

theorem modify {f : σ → σ} {f' : τ → τ} (h : ∀ s t, R s t → R (f s) (f' t)) :
    Tracks lenient R Eq (modify f : Effect σ ε PUnit) (modify f') :=
  fun s t hst => .ok rfl (h s t hst)

/-- Whatever is known of the first result may be added. -/
theorem and {Q : α → Prop} (h : Tracks lenient R P e e')
    (hQ : ∀ s a s', e.step s = (.ok a, s') → Q a) :
    Tracks lenient R (fun a b => P a b ∧ Q a) e e' := by
  intro s t hst
  have hends := h s t hst
  have hgiven := hQ s
  generalize e.step s = r at hends hgiven ⊢
  generalize e'.step t = r' at hends ⊢
  cases hends with
  | ok hab hs => exact .ok ⟨hab, hgiven _ _ rfl⟩ hs
  | error err hs => exact .error err hs
  | excused hlenient err s => exact .excused hlenient err s _

/-- **Computations that go on alike** track each other. -/
theorem bind {Q : α' → β' → Prop} {f : α → Effect σ ε α'} {f' : β → Effect τ ε β'}
    (h : Tracks lenient R P e e') (hf : ∀ a b, P a b → Tracks lenient R Q (f a) (f' b)) :
    Tracks lenient R Q (e >>= f) (e' >>= f') := by
  intro s t hst
  have hends := h s t hst
  rw [step_bind, step_bind]
  generalize e.step s = r at hends ⊢
  generalize e'.step t = r' at hends ⊢
  cases hends with
  | ok hab hs => exact hf _ _ hab _ _ hs
  | error err hs => exact .error err hs
  | excused hlenient err s => exact .excused hlenient err s _

/-- Computations that go on with the same result. -/
theorem bindSame {γ : Type} {Q : α' → β' → Prop} {e : Effect σ ε γ} {e' : Effect τ ε γ}
    {f : γ → Effect σ ε α'} {f' : γ → Effect τ ε β'} (h : Tracks lenient R Eq e e')
    (hf : ∀ a, Tracks lenient R Q (f a) (f' a)) : Tracks lenient R Q (e >>= f) (e' >>= f') :=
  h.bind fun a _ heq => heq ▸ hf a

theorem mapError {f : ε → ε'} (h : Tracks lenient R P e e') :
    Tracks lenient R P (e.mapError f) (e'.mapError f) := by
  intro s t hst
  have hends := h s t hst
  rw [step_mapError, step_mapError]
  generalize e.step s = r at hends ⊢
  generalize e'.step t = r' at hends ⊢
  cases hends with
  | ok hab hs => exact .ok hab hs
  | error err hs => exact .error (f err) hs
  | excused hlenient err s => exact .excused hlenient (f err) s _

/-- Computations on parts of larger states. -/
theorem zoom {σ' τ' : Type} {R' : σ' → τ' → Prop} {get : σ' → σ} {set : σ → σ' → σ'}
    {get' : τ' → τ} {set' : τ → τ' → τ'} (h : Tracks lenient R P e e')
    (hget : ∀ s t, R' s t → R (get s) (get' t))
    (hset : ∀ s t a b, R' s t → R a b → R' (set a s) (set' b t)) :
    Tracks lenient R' P (e.zoom get set) (e'.zoom get' set') := by
  intro s t hst
  have hends := h (get s) (get' t) (hget s t hst)
  rw [step_zoom, step_zoom]
  revert hends
  generalize e.step (get s) = r, e'.step (get' t) = r'
  intro hends
  cases hends with
  | ok hab hs => exact .ok hab (hset s t _ _ hst hs)
  | error err hs => exact .error err (hset s t _ _ hst hs)
  | excused hlenient err a => exact .excused hlenient err _ _

end Tracks
end Effect
end BatchInbox
