import BatchInbox.Http.Transport
import BatchInbox.Proofs.Effect
import Mathlib.Order.Bounds.Basic

/-!
# Making a request again

If nothing kept it from going on, a request would be made again and again, each time in the state that
the time before has left behind.  What comes of the request is what came of one of these attempts: of
the first that is not worth another one, or of the last that may be made.

## What is here

* `tries` — what comes of each attempt, if there were no end to them.
* `IsFleeting` — what is worth another attempt.
* `step_withRetries` — which attempt counts.
-/

set_option autoImplicit false
namespace BatchInbox

section
variable {σ α : Type}

/-- What comes of attempt `n`, counted from 0, if one attempt follows the other. -/
def tries (request : Effect σ RpcError α) (s : σ) : Nat → Except RpcError α × σ
  | 0 => request.step s
  | n + 1 => request.step (tries request s n).2

/-- The attempts behind the first are those in the state that the first has left behind. -/
theorem tries_succ (request : Effect σ RpcError α) (s : σ) (n : Nat) :
    tries request s (n + 1) = tries request (request.step s).2 n := by
  induction n with
  | zero => rfl
  | succ n ih => rw [tries, ih, tries]

/-- It may be different the next time. -/
def IsFleeting (r : Except RpcError α) : Prop := ∃ e, r = .error e ∧ e.isRetryable = true

theorem step_withRetries_succ (request : Effect σ RpcError α) (more : Nat) (s : σ) :
    (IsFleeting (request.step s).1 ∧
      (withRetries request (more + 1)).step s = (withRetries request more).step (request.step s).2) ∨
    (¬IsFleeting (request.step s).1 ∧ (withRetries request (more + 1)).step s = request.step s) := by
  rw [withRetries, Effect.step_bind, Effect.step_attempt]
  rcases request.step s with ⟨e | a, s'⟩
  · dsimp only
    cases hretry : e.isRetryable
    · right
      refine ⟨?_, rfl⟩
      rintro ⟨_, ⟨⟩, hfleeting⟩
      rw [hretry] at hfleeting
      cases hfleeting
    · exact .inl ⟨⟨e, rfl, hretry⟩, rfl⟩
  · right
    refine ⟨?_, rfl⟩
    rintro ⟨_, ⟨⟩, -⟩

/-- The first attempt is the only one if it is not worth another. -/
theorem step_withRetries_of_settled {request : Effect σ RpcError α} {s : σ}
    (h : ¬IsFleeting (request.step s).1) (more : Nat) :
    (withRetries request more).step s = request.step s := by
  cases more with
  | zero => rfl
  | succ more =>
    rcases step_withRetries_succ request more s with ⟨hfleeting, -⟩ | ⟨-, hstep⟩
    · exact absurd hfleeting h
    · exact hstep

/-- **Which attempt counts**: the first of them that is the last one or is not worth another. -/
theorem step_withRetries (request : Effect σ RpcError α) (more : Nat) (s : σ) :
    ∃ k, IsLeast {n | n = more ∨ ¬IsFleeting (tries request s n).1} k ∧
      (withRetries request more).step s = tries request s k := by
  induction more generalizing s with
  | zero => exact ⟨0, ⟨.inl rfl, fun n _ => Nat.zero_le n⟩, rfl⟩
  | succ more ih =>
    rcases step_withRetries_succ request more s with ⟨hfleeting, hstep⟩ | ⟨hsettled, hstep⟩
    · obtain ⟨k, ⟨hk, hleast⟩, hrest⟩ := ih (request.step s).2
      refine ⟨k + 1, ⟨?_, ?_⟩, ?_⟩
      · show k + 1 = more + 1 ∨ ¬IsFleeting (tries request s (k + 1)).1
        rw [tries_succ]
        exact hk.imp (congrArg (· + 1)) id
      · intro n hn
        cases n with
        | zero => exact (hn.resolve_left (Nat.succ_ne_zero more).symm hfleeting).elim
        | succ n =>
          replace hn : n + 1 = more + 1 ∨ ¬IsFleeting (tries request s (n + 1)).1 := hn
          rw [tries_succ] at hn
          exact Nat.succ_le_succ (hleast (hn.imp Nat.succ.inj id))
      · rw [hstep, hrest, tries_succ]
    · exact ⟨0, ⟨.inr hsettled, fun n _ => Nat.zero_le n⟩, hstep⟩

end

end BatchInbox
