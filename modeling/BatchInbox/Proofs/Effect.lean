import BatchInbox.Effect

/-!
# Taking computations apart

A computation that gives a result has gone through all its parts, and each of these has given a
result too.  So what is known of the result is found by going backwards: a bind that succeeded is
two computations that succeeded, one on the state that the other left.

## What is here

* `Effect.step_bind_eq_ok` — a bind that succeeded, in two parts; `bind_eq_ok` is the same where there
  is no state.
* `Effect.step_pure`, `step_get`, `step_throw`, `step_modify`, `step_map` — computations of one step,
  and mapped results.
* `Effect.step_mapError`, `step_zoom_eq_ok`, `step_onFst`, `step_attempt` — renamed, focused and
  guarded computations.
-/

set_option autoImplicit false
namespace BatchInbox

/-- A bind that succeeded. -/
theorem bind_eq_ok {ε α β : Type} {x : Except ε α} {f : α → Except ε β} {b : β} :
    x >>= f = .ok b ↔ ∃ a, x = .ok a ∧ f a = .ok b := by
  cases x with
  | error e => exact ⟨nofun, fun ⟨_, h, _⟩ => absurd h nofun⟩
  | ok a => exact ⟨fun h => ⟨a, rfl, h⟩, fun ⟨_, rfl, h⟩ => h⟩

namespace Effect
variable {σ τ ε ε' α β : Type} {e : Effect σ ε α}

/-- A bind goes on with what its first part gives, if it gives anything. -/
theorem step_bind (f : α → Effect σ ε β) (s : σ) :
    (e >>= f).step s =
      match e.step s with
      | (.ok a, s₁) => (f a).step s₁
      | (.error err, s₁) => (.error err, s₁) := by
  show (ExceptT.bindCont f (e s).1 : StateM σ (Except ε β)) (e s).2 = _
  rw [step]
  rcases e s with ⟨err | a, s₁⟩ <;> rfl

/-- A bind that succeeded. -/
theorem step_bind_eq_ok {f : α → Effect σ ε β} {b : β} {s s' : σ} :
    (e >>= f).step s = (.ok b, s') ↔
      ∃ a s₁, e.step s = (.ok a, s₁) ∧ (f a).step s₁ = (.ok b, s') := by
  rw [step_bind]
  rcases he : e.step s with ⟨err | a, s₁⟩
  · simp
  · simp only [Prod.mk.injEq, Except.ok.injEq]
    exact ⟨fun h => ⟨a, s₁, ⟨rfl, rfl⟩, h⟩, fun ⟨_, _, ⟨rfl, rfl⟩, h⟩ => h⟩

@[simp]
theorem step_pure (a : α) (s : σ) : (pure a : Effect σ ε α).step s = (.ok a, s) := rfl

@[simp]
theorem step_get (s : σ) : (get : Effect σ ε σ).step s = (.ok s, s) := rfl

@[simp]
theorem step_throw (err : ε) (s : σ) : (throw err : Effect σ ε α).step s = (.error err, s) := rfl

@[simp]
theorem step_modify (f : σ → σ) (s : σ) :
    (modify f : Effect σ ε PUnit).step s = (.ok ⟨⟩, f s) := rfl

/-- Results are mapped; errors and states stay as they are. -/
theorem step_map (f : α → β) (s : σ) :
    (f <$> e).step s = ((e.step s).1.map f, (e.step s).2) := by
  rw [map_eq_pure_bind, step_bind]
  rcases e.step s with ⟨err | a, s'⟩ <;> rfl

theorem step_mapError (f : ε → ε') (s : σ) :
    (e.mapError f).step s =
      match e.step s with
      | (.ok a, s) => (.ok a, s)
      | (.error err, s) => (.error (f err), s) := rfl

theorem step_zoom (get : τ → σ) (set : σ → τ → τ) (t : τ) :
    (e.zoom get set).step t = ((e.step (get t)).1, set (e.step (get t)).2 t) := rfl

theorem step_zoom_eq_ok {get : τ → σ} {set : σ → τ → τ} {a : α} {t t' : τ} :
    (e.zoom get set).step t = (.ok a, t') ↔
      ∃ s', e.step (get t) = (.ok a, s') ∧ t' = set s' t := by
  rw [step_zoom]
  rcases e.step (get t) with ⟨r, s₁⟩
  simp only [Prod.mk.injEq]
  exact ⟨fun ⟨h, h'⟩ => ⟨s₁, ⟨h, rfl⟩, h'.symm⟩, fun ⟨_, ⟨h, rfl⟩, h'⟩ => ⟨h, h'.symm⟩⟩

theorem step_onFst (s : σ × τ) :
    (e.onFst : Effect (σ × τ) ε α).step s = ((e.step s.1).1, ((e.step s.1).2, s.2)) := rfl

/-- An attempt succeeds, with what was attempted. -/
theorem step_attempt (s : σ) :
    (e.attempt : Effect σ ε' (Except ε α)).step s = (.ok (e.step s).1, (e.step s).2) := rfl

end Effect
end BatchInbox
