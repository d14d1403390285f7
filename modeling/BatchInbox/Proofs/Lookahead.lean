import BatchInbox.Proofs.Cache
import BatchInbox.Proofs.Ensures
import BatchInbox.Resolve.Scan
import Mathlib.Data.List.Forall2

/-!
# Fetching ahead keeps the order

Blocks are fetched a few at a time and wait to be read.  Whatever their number, they are read in the
order in which they were asked for, and each with transactions that were fetched for it.

Transactions come from the disk or from the client, and what comes from the client goes to the disk.
So if something is true of all transactions on disk and of all that the client gives, it stays true
of the disk, and is true of all that is fetched.

## What is here

* `InboxQuery.fetch_step` — fetching a block that is not on disk.
* `Disk.Stores`, `L1Source.Serves` — what the files say, and what the client gives.
* `InboxQuery.ensures_fetch` — what fetching one block gives and leaves.
* `Lookahead.Holds` — the blocks to come, fetched or not; `ensures_fetchSome`, `ensures_next` — the
  steps.
-/

set_option autoImplicit false
namespace BatchInbox

section
variable {σ : Type} {source : L1Source σ} {q : InboxQuery}
  {K : Word → Word → List InboxTx → Prop}

/-! ## One block -/

/-- Fetching a block that is on disk asks nobody. -/
theorem InboxQuery.fetch_step_hit {d : Disk} {n : Word} {txs : List InboxTx}
    (h : d.load? q.l2ChainId n = some txs) (w : σ) :
    (q.fetch source n).step (w, d) = (.ok (txs.filter (·.sender = q.sender)), (w, d)) := by
  rw [fetch, Effect.step_bind, fetchInbox, Effect.step_bind, Effect.step_get]
  simp only [h]
  rfl

/-- Fetching a block that is not on disk. -/
theorem InboxQuery.fetch_step {d : Disk} {n : Word} (h : d.load? q.l2ChainId n = none) (w : σ) :
    (q.fetch source n).step (w, d) =
      match (source.block n).step w with
      | (.ok b, w') => (.ok ((b.inboxTxs q.inbox).filter (·.sender = q.sender)),
          (w', (d.store? q.l2ChainId n (b.inboxTxs q.inbox)).getD d))
      | (.error e, w') => (.error e, (w', d)) := by
  rw [fetch, Effect.step_bind, fetchInbox, Effect.step_bind, Effect.step_get]
  simp only [h]
  rw [Effect.step_bind, Effect.step_onFst]
  rcases (source.block n).step w with ⟨e | b, w'⟩ <;> rfl

/-- Whatever the files say of a chain and a block is of `K`. -/
def Disk.Stores (K : Word → Word → List InboxTx → Prop) (d : Disk) : Prop :=
  ∀ chain n txs, d.load? chain n = some txs → K chain n txs

theorem Disk.stores_empty : Disk.empty.Stores K :=
  fun _ _ _ hload => absurd hload nofun

/-- Whatever the client gives for a block, its transactions to the inbox are of `K`. -/
def L1Source.Serves (source : L1Source σ) (K : Word → Word → List InboxTx → Prop)
    (chain : Word) (inbox : Address) : Prop :=
  ∀ n w b w', (source.block n).step w = (.ok b, w') → K chain n (b.inboxTxs inbox)

/-- The transactions are those of one sender among some of `K`. -/
def InboxQuery.Wants (q : InboxQuery) (K : Word → Word → List InboxTx → Prop) (n : Word)
    (txs : List InboxTx) : Prop :=
  ∃ stored, K q.l2ChainId n stored ∧ txs = stored.filter (·.sender = q.sender)

/-- **What is fetched** was on disk, or comes from the client and is on disk from now on. -/
theorem InboxQuery.ensures_fetch (hsource : source.Serves K q.l2ChainId q.inbox) (n : Word) :
    (q.fetch source n).Ensures (fun s => s.2.Stores K) (q.Wants K n) fun _ => True := by
  rintro ⟨w, d⟩ hd
  cases hload : d.load? q.l2ChainId n with
  | some stored =>
    rw [fetch_step_hit hload]
    exact .ok ⟨stored, hd _ _ _ hload, rfl⟩ hd
  | none =>
    rw [fetch_step hload]
    rcases hblock : (source.block n).step w with ⟨e | b, w'⟩
    · exact .error trivial hd
    · have hgiven := hsource n w b w' hblock
      refine .ok ⟨_, hgiven, rfl⟩ fun chain m txs hload' => ?_
      rcases Disk.load?_getD_store? hload' with ⟨hkey, rfl⟩ | hold
      · cases hkey
        exact hgiven
      · exact hd chain m txs hold

/-! ## Many blocks -/

/-- A block that was fetched, unless the client failed. -/
def InboxQuery.IsFetched (q : InboxQuery) (K : Word → Word → List InboxTx → Prop) (n : Word)
    (fetched : FetchedBlock) : Prop :=
  ∀ block, fetched = .ok block → block.1 = n ∧ q.Wants K n block.2

/-- The blocks `numbers` are to come: the first ones are fetched, and the others wait. -/
def Lookahead.Holds (q : InboxQuery) (K : Word → Word → List InboxTx → Prop) (numbers : List Word)
    (ahead : Lookahead) : Prop :=
  ∃ fetched, numbers = fetched ++ ahead.waiting ∧
    List.Forall₂ (q.IsFetched K) fetched ahead.ready

variable {numbers : List Word} {E : ResolveError → Prop}

/-- Fetching keeps the blocks that are to come, and cannot fail.  If there is room, some block is
ready afterwards, or none is to come. -/
theorem ensures_fetchSome (hsource : source.Serves K q.l2ChainId q.inbox) {room : Nat}
    {waiting : List Word} {ready : List FetchedBlock}
    (hold : (⟨waiting, ready⟩ : Lookahead).Holds q K numbers) :
    (fetchSome q source ready room waiting).Ensures (fun s => s.2.Stores K)
      (fun ahead => ahead.Holds q K numbers ∧
        (0 < room ∨ ready ≠ [] → ahead.ready = [] → numbers = [])) E := by
  induction room generalizing waiting ready with
  | zero =>
    refine .pure ⟨hold, fun hsome hnone => ?_⟩
    exact absurd hnone (hsome.resolve_left (Nat.lt_irrefl 0))
  | succ room ih =>
    cases waiting with
    | nil =>
      refine .pure ⟨hold, fun _ hnone => ?_⟩
      obtain ⟨fetched, rfl, hfetched⟩ := hold
      rw [show ready = [] from hnone] at hfetched
      cases hfetched
      rfl
    | cons n waiting =>
      refine (InboxQuery.ensures_fetch hsource n).attempt.bind fun result hresult => ?_
      have hready : q.IsFetched K n (result.map fun txs => (n, txs)) := by
        intro block hblock
        cases result with
        | error e => exact absurd hblock nofun
        | ok txs =>
          cases hblock
          exact ⟨rfl, hresult txs rfl⟩
      have hold' : (⟨waiting, ready ++ [result.map fun txs => (n, txs)]⟩ : Lookahead).Holds q K
          numbers := by
        obtain ⟨fetched, hnumbers, hfetched⟩ := hold
        refine ⟨fetched ++ [n], ?_, List.rel_append hfetched (.cons hready .nil)⟩
        rw [hnumbers, List.append_assoc]
        rfl
      exact (ih hold').mono (fun ahead h => ⟨h.1, fun _ => h.2 (.inr (by simp))⟩) fun _ => id

/-- The next of the blocks to come, if there is one. -/
inductive Lookahead.IsNext (q : InboxQuery) (K : Word → Word → List InboxTx → Prop) :
    List Word → Option (FetchedBlock × Lookahead) → Prop where
  | done : IsNext q K [] none
  | block {n : Word} {rest : List Word} {fetched : FetchedBlock} {ahead : Lookahead}
    (hfetched : q.IsFetched K n fetched) (hold : ahead.Holds q K rest) :
    IsNext q K (n :: rest) (some (fetched, ahead))

/-- **The step.**  The next block is the first of those to come, and there is one as long as any are
to come. -/
theorem ensures_next (hsource : source.Serves K q.l2ChainId q.inbox) {ahead : Lookahead}
    (concurrency : Nat) (hold : ahead.Holds q K numbers) :
    (ahead.next q source concurrency).Ensures (fun s => s.2.Stores K) (Lookahead.IsNext q K numbers)
      E := by
  refine (ensures_fetchSome hsource hold).bind fun ahead' hahead' => ?_
  obtain ⟨waiting, ready⟩ := ahead'
  obtain ⟨⟨fetched, rfl, hfetched⟩, hready⟩ := hahead'
  cases hfetched with
  | nil =>
    have hnone : ([] ++ waiting : List Word) = [] := by
      refine hready ?_ rfl
      by_cases hempty : ahead.ready = []
      · rw [hempty, List.length_nil]
        exact .inl (by omega)
      · exact .inr hempty
    rw [hnone]
    exact .pure .done
  | cons hblock hfetched =>
    exact .pure (.block hblock ⟨_, rfl, hfetched⟩)

end

end BatchInbox
