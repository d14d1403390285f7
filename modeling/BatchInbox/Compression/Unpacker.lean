/-!
# Decompressing under a limit

A channel names its own compression, and a few bytes of it can expand without bound, so every
decompressor is run against a limit on its output.  The three formats reach that limit the same
way: a decompressor is an `Unpacker`, a machine that knows nothing of the limit, and
`Unpacker.run` steps it until it is done, finds the data corrupt, or needs more room than allowed.

## What is here

* `Corruption` — why a stream cannot be decompressed.
* `Unpacker`, `Progress` — the machine and the outcome of one of its steps.
* `Unpacker.run` — the machine under a limit; `run_size_le`, `run_mono` and `run_tooLarge` say
  that the limit only decides between the whole output and `tooLarge`.
-/

set_option autoImplicit false
namespace BatchInbox

/-- Why a compressed stream cannot be decompressed. -/
inductive Corruption where
  /-- The data breaks a rule of its format. -/
  | invalid
  /-- The data ends before the stream does. -/
  | truncated
  /-- The content does not hash to the checksum that follows it. -/
  | checksum
  deriving DecidableEq, Repr

/-- The outcome of one step. -/
inductive Progress (σ : Type) where
  | more (state : σ)
  | done (state : σ)
  /-- The data is corrupt, which shows once the consumer has offered `demand` bytes of room. -/
  | corrupt (cause : Corruption) (demand : Nat)

/-- The outcome of a step that started with `produced` bytes of output.  Missing data shows only
when all of these are taken, other faults at once.

The call is kept so that `produced` is a number before the step begins: held on to, the output would
have to be copied. -/
@[noinline]
def Progress.ofStep {σ : Type} (produced : Nat) : Except Corruption σ → Progress σ
  | .ok s => .more s
  | .error .truncated => .corrupt .truncated produced
  | .error cause => .corrupt cause 0

/-- A decompressor, independent of any limit. -/
structure Unpacker (σ : Type) where
  step : σ → Progress σ
  /-- Everything decompressed so far. -/
  output : σ → ByteArray
  /-- The room a consumer must have offered for the machine to get this far.  It may trail the
  output, for a format that hands its output over in large portions. -/
  demand : σ → Nat

/-- Why no output comes out of a limited run. -/
inductive UnpackError where
  | tooLarge
  | corrupt (cause : Corruption)
  deriving DecidableEq, Repr

namespace Unpacker
variable {σ : Type}

/-- Steps the machine until it ends or asks for more than `limit` bytes of room.  `fuel` bounds the
steps; the callers derive it from the length of the data, so that it never runs out. -/
def run (u : Unpacker σ) (limit : Nat) : (fuel : Nat) → σ → Except UnpackError ByteArray
  | 0, _ => .error (.corrupt .truncated)
  | fuel + 1, s =>
    match u.step s with
    | .corrupt cause demand =>
      if limit < demand then .error .tooLarge else .error (.corrupt cause)
    | .done s =>
      if limit < (u.output s).size then .error .tooLarge else .ok (u.output s)
    | .more s =>
      if limit < u.demand s then .error .tooLarge else run u limit fuel s

/-- The output only grows, and the machine never asks for room that its output will not fill. -/
structure Lawful (u : Unpacker σ) : Prop where
  demand_le_more {s t : σ} : u.step s = .more t → u.demand s ≤ (u.output t).size
  size_le_more {s t : σ} : u.step s = .more t → (u.output s).size ≤ (u.output t).size
  demand_le_done {s t : σ} : u.step s = .done t → u.demand s ≤ (u.output t).size
  size_le_done {s t : σ} : u.step s = .done t → (u.output s).size ≤ (u.output t).size

theorem run_size_le {u : Unpacker σ} {limit fuel : Nat} {s : σ} {out : ByteArray}
    (h : u.run limit fuel s = .ok out) : out.size ≤ limit := by
  induction fuel generalizing s with
  | zero => simp [run] at h
  | succ fuel ih =>
    rw [run] at h
    split at h
    · split at h <;> simp at h
    · split at h
      · simp at h
      · simp only [Except.ok.injEq] at h
        subst h
        omega
    · split at h
      · simp at h
      · exact ih h

/-- A finished run demands no more room than its output fills. -/
theorem Lawful.demand_le {u : Unpacker σ} (hu : u.Lawful) {limit fuel : Nat} {s : σ}
    {out : ByteArray} (h : u.run limit fuel s = .ok out) :
    u.demand s ≤ out.size ∧ (u.output s).size ≤ out.size := by
  induction fuel generalizing s with
  | zero => simp [run] at h
  | succ fuel ih =>
    rw [run] at h
    split at h
    · split at h <;> simp at h
    · rename_i hs
      split at h
      · simp at h
      · simp only [Except.ok.injEq] at h
        subst h
        exact ⟨hu.demand_le_done hs, hu.size_le_done hs⟩
    · rename_i hs
      split at h
      · simp at h
      · have := ih h
        have := hu.demand_le_more hs
        have := hu.size_le_more hs
        omega

/-- More room than the output needs changes nothing. -/
theorem Lawful.run_mono {u : Unpacker σ} (hu : u.Lawful) {limit limit' fuel : Nat} {s : σ}
    {out : ByteArray} (h : u.run limit fuel s = .ok out) (hl : out.size ≤ limit') :
    u.run limit' fuel s = .ok out := by
  induction fuel generalizing s with
  | zero => simp [run] at h
  | succ fuel ih =>
    rw [run] at h ⊢
    split at h
    · split at h <;> simp at h
    · split at h
      · simp at h
      · simp only [Except.ok.injEq] at h
        subst h
        simp [Nat.not_lt.2 hl]
    · split at h
      · simp at h
      · have := (hu.demand_le h).1
        rw [if_neg (by omega)]
        exact ih h

/-- Less room than the output needs is reported as such. -/
theorem run_tooLarge {u : Unpacker σ} {limit limit' fuel : Nat} {s : σ}
    {out : ByteArray} (h : u.run limit fuel s = .ok out) (hl : limit' < out.size) :
    u.run limit' fuel s = .error .tooLarge := by
  induction fuel generalizing s with
  | zero => simp [run] at h
  | succ fuel ih =>
    rw [run] at h ⊢
    split at h
    · split at h <;> simp at h
    · split at h
      · simp at h
      · simp only [Except.ok.injEq] at h
        subst h
        simp [hl]
    · split at h
      · simp at h
      · split
        · rfl
        · exact ih h

end Unpacker
end BatchInbox
