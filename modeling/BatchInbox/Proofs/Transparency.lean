import BatchInbox.Proofs.Completeness
import BatchInbox.Proofs.Retention

/-!
# The disk does not show

Files only save calls.  Whatever requests have been resolved before, with whatever outcome, their
files say what L1 says; so a request that succeeds without files succeeds with them, and its result is
the same.  When a request has succeeded, all blocks of its window are on disk, and resolving it again
asks for no block.

Here L1 and the beacon chain stand still: what the nodes answer is a matter of what they are asked.
They may refuse some questions, and those who asked them earlier may have been given up at any point.

## What is here

* `Endpoints.IsSteady`, `L1Source.Tells` — nodes whose answers do not change, and blocks of one L1.
* `Disk.LeftBy` — the disks that earlier requests may leave.
* `Disk.Mirrors` — the files say what L1 says; `Disk.LeftBy.mirrors`.
* `resolve_transparent` — neither the outcome nor the calls of a request show what was before.
-/

set_option autoImplicit false
namespace BatchInbox
open Effect (Tracks)

/-! ## Nodes -/

section
variable {σ : Type}

/-- The blocks that a client gives are those of L1. -/
def L1Source.Tells (source : L1Source σ) (blocks : Word → L1Block) : Prop :=
  ∀ n w b w', (source.block n).step w = (.ok b, w') → b = blocks n

/-- The client gives a block whenever it is asked for it. -/
def L1Source.Gives (source : L1Source σ) (blocks : Word → L1Block) (n : Word) : Prop :=
  ∀ w, ((source.block n).step w).1 = .ok (blocks n)

/-- The answers of nodes depend on nothing but the questions. -/
structure Endpoints.IsSteady (u : Endpoints σ) : Prop where
  finalized : ∀ w w', (u.l1.finalized.step w).1 = (u.l1.finalized.step w').1
  header : ∀ n w w', ((u.l1.header n).step w).1 = ((u.l1.header n).step w').1
  block : ∀ n w w', ((u.l1.block n).step w).1 = ((u.l1.block n).step w').1
  timing : ∀ w w', (u.beacon.timing.step w).1 = (u.beacon.timing.step w').1
  sidecars : ∀ slot w w',
    ((u.beacon.sidecars slot).step w).1 = ((u.beacon.sidecars slot).step w').1

/-- The same nodes, with other answers to the questions for blocks, and for a caller that does not
give up. -/
def Endpoints.withBlocks (u : Endpoints σ) (block : Word → Effect σ RpcError L1Block) :
    Endpoints σ :=
  { u with l1 := { u.l1 with block }, isCancelled := fun _ => false }

/-- A steady answer is the same in any world. -/
theorem tracks_of_steady {lenient : Prop} {ε α : Type} {e : Effect σ ε α}
    (h : ∀ w w', (e.step w).1 = (e.step w').1) : Tracks lenient (fun _ _ => True) Eq e e := by
  intro w w' _
  have hsame := h w w'
  generalize e.step w = r at hsame ⊢
  generalize e.step w' = r' at hsame ⊢
  obtain ⟨result, s⟩ := r
  obtain ⟨result', s'⟩ := r'
  obtain rfl : result = result' := hsame
  cases result with
  | error err => exact .error err trivial
  | ok a => exact .ok rfl trivial

/-- Steady nodes answer all other questions alike, in any world. -/
theorem Endpoints.IsSteady.alike {u : Endpoints σ} (h : u.IsSteady)
    (block : Word → Effect σ RpcError L1Block) :
    u.Alike True (fun _ _ => True) (u.withBlocks block) where
  finalized := tracks_of_steady h.finalized
  header n := tracks_of_steady (h.header n)
  timing := tracks_of_steady h.timing
  sidecars slot := tracks_of_steady (h.sidecars slot)
  isCancelled _ _ _ := .inr ⟨trivial, rfl⟩

end

/-! ## Disks -/

section
variable {σ : Type} {blocks : Word → L1Block} {A : Word → Prop} {chain : Word} {inbox : Address}
  {d : Disk}

/-- The disks that earlier requests may leave: all of them asked the same L1, and those for the L2
chain looked for the same inbox.  In the beginning no file of the chain is readable.  Apart from whole
requests, blocks may have been fetched by some that were given up in between. -/
inductive Disk.LeftBy (blocks : Word → L1Block) (chain : Word) (inbox : Address) : Disk → Prop where
  | start {d : Disk} (h : ∀ n, d.load? chain n = none) : d.LeftBy blocks chain inbox
  | fetch {d : Disk} (h : d.LeftBy blocks chain inbox) {τ : Type} {source : L1Source τ}
    (ht : source.Tells blocks) {q : InboxQuery} (hq : q.l2ChainId = chain → q.inbox = inbox)
    (n : Word) (w : τ) : ((q.fetch source n).step (w, d)).2.2.LeftBy blocks chain inbox
  | resolve {d : Disk} (h : d.LeftBy blocks chain inbox) {τ : Type} {v : Endpoints τ}
    (ht : v.l1.Tells blocks) {c : Rollup} (hc : c.l2ChainId = chain → c.inbox = inbox)
    (settings : ResolveSettings) (start last : Word) (w : τ) :
    ((resolve v settings c start last).step ⟨w, d, .empty⟩).2.disk.LeftBy blocks chain inbox

/-- The readable files of a chain are those of blocks in `A`, and say what L1 says. -/
def Disk.Mirrors (blocks : Word → L1Block) (A : Word → Prop) (chain : Word) (inbox : Address)
    (d : Disk) : Prop :=
  ∀ n txs, d.load? chain n = some txs → A n ∧ txs = (blocks n).inboxTxs inbox

/-- **The step.**  Fetching a block of L1 keeps to that, and what is fetched is what L1 says. -/
theorem Disk.Mirrors.fetch {source : L1Source σ} (ht : source.Tells blocks)
    (hA : ∀ n w b w', (source.block n).step w = (.ok b, w') → A n) {q : InboxQuery}
    (hq : q.l2ChainId = chain → q.inbox = inbox) (h : d.Mirrors blocks A chain inbox) (n : Word)
    (w : σ) :
    ((q.fetch source n).step (w, d)).2.2.Mirrors blocks A chain inbox ∧
      (q.l2ChainId = chain → ∀ txs, ((q.fetch source n).step (w, d)).1 = .ok txs →
        A n ∧ txs = ((blocks n).inboxTxs inbox).filter (·.sender = q.sender)) := by
  have hserves : source.Serves (fun chain' n txs => chain' = chain → A n ∧
      txs = (blocks n).inboxTxs inbox) q.l2ChainId q.inbox := by
    intro m w b w' hblock hchain
    rw [ht m w b w' hblock, hq hchain]
    exact ⟨hA m w b w' hblock, rfl⟩
  have hstores : d.Stores fun chain' n txs => chain' = chain → A n ∧
      txs = (blocks n).inboxTxs inbox := by
    rintro _ m txs hload rfl
    exact h m txs hload
  have hfetch := InboxQuery.ensures_fetch hserves n
  refine ⟨fun m txs hload => hfetch.state (s := (w, d)) hstores chain m txs hload rfl,
    fun hchain txs htxs => ?_⟩
  obtain ⟨stored, hstored, rfl⟩ := (hfetch.of_ok (s := (w, d)) hstores (Prod.ext htxs rfl)).1
  obtain ⟨hn, rfl⟩ := hstored hchain
  exact ⟨hn, rfl⟩

/-- What is kept by fetching blocks is kept by resolving a request. -/
theorem disk_resolve {I : Disk → Prop} {u : Endpoints σ} {c : Rollup}
    (hI : ∀ n w d, I d → I (((⟨c.l2ChainId, c.inbox, c.batcher⟩ : InboxQuery).fetch u.l1 n).step
      (w, d)).2.2)
    (settings : ResolveSettings) (start last : Word) {s : Session σ} (h : I s.disk) :
    I ((resolve u settings c start last).step s).2.disk := by
  have hself : u.Alike False Eq u := u.alike_refl
  have htracks := tracks_resolve (D := fun d d' => d = d' ∧ I d) hself L1Position.keepsOrder_eq
    settings c start last (fun _ _ _ _ _ _ _ n _ _ => ?_) s s ⟨rfl, ⟨rfl, h⟩, rfl⟩
  · exact htracks.states.disk.2
  · rintro w d _ _ rfl ⟨rfl, hd⟩
    refine ⟨?_, rfl, rfl, hI n w d hd⟩
    cases ((⟨c.l2ChainId, c.inbox, c.batcher⟩ : InboxQuery).fetch u.l1 n).step (w, d) |>.1 with
    | error e => exact .error e
    | ok txs => exact .ok (InboxTx.forall₂_alike_refl txs)

/-- **Earlier requests leave what L1 says.** -/
theorem Disk.LeftBy.mirrors (h : d.LeftBy blocks chain inbox) :
    d.Mirrors blocks (fun _ => True) chain inbox := by
  induction h with
  | start h => exact fun n txs hload => absurd ((h n).symm.trans hload) nofun
  | fetch _ ht hq n w ih => exact (ih.fetch ht (fun _ _ _ _ _ => trivial) hq n w).1
  | resolve _ ht hc settings start last w ih =>
    exact disk_resolve (fun n w d hd => (hd.fetch ht (fun _ _ _ _ _ => trivial) hc n w).1) settings
      start last ih

/-! ## Two requests -/

variable {u : Endpoints σ} {q : InboxQuery}

/-- The transactions that a query wants of a block. -/
def L1Block.wanted (b : L1Block) (q : InboxQuery) : List InboxTx :=
  (b.inboxTxs q.inbox).filter (·.sender = q.sender)

/-- Blocks are fetched alike if the second request fetches whatever the first one does. -/
theorem fetchesAlike_of_ok {source source' : L1Source σ} {D : Disk → Disk → Prop} {n : Word}
    (hok : ∀ w d w' d', D d d' → ∀ txs, ((q.fetch source n).step (w, d)).1 = .ok txs →
      ((q.fetch source' n).step (w', d')).1 = .ok txs)
    (hD : ∀ w d w' d', D d d' →
      D ((q.fetch source n).step (w, d)).2.2 ((q.fetch source' n).step (w', d')).2.2) :
    q.FetchesAlike True (fun _ _ => True) D Eq source source' n := by
  intro w d w' d' _ hdisks
  refine ⟨?_, trivial, hD w d w' d' hdisks⟩
  cases hfetch : ((q.fetch source n).step (w, d)).1 with
  | error e => exact .excused trivial e _
  | ok txs =>
    rw [hok w d w' d' hdisks txs hfetch]
    exact .ok (InboxTx.forall₂_alike_refl txs)

/-- A block that the client gives is fetched from a disk that says what L1 says. -/
theorem fetch_of_gives {source : L1Source σ} {n : Word} (hgives : source.Gives blocks n)
    (h : d.Mirrors blocks A q.l2ChainId q.inbox) (w : σ) :
    ((q.fetch source n).step (w, d)).1 = .ok ((blocks n).wanted q) := by
  cases hload : d.load? q.l2ChainId n with
  | some stored =>
    rw [InboxQuery.fetch_step_hit hload, (h n stored hload).2]
    rfl
  | none =>
    have hgiven := hgives w
    rw [InboxQuery.fetch_step hload]
    rcases hblock : (source.block n).step w with ⟨e | b, w'⟩ <;> rw [hblock] at hgiven <;>
      cases hgiven
    rfl

/-- **A request that succeeds without files succeeds with them.** -/
theorem resolve_of_empty (hu : u.IsSteady) (ht : u.l1.Tells blocks) {settings : ResolveSettings}
    {c : Rollup} {start last : Word} {w w' : σ} {r : Resolution}
    (h : ((resolve u settings c start last).step ⟨w, .empty, .empty⟩).1 = .ok r)
    (hd : d.LeftBy blocks c.l2ChainId c.inbox) :
    ((resolve (u.withBlocks u.l1.block) settings c start last).step ⟨w', d, .empty⟩).1 =
      .ok r := by
  have hgives : ∀ n w b w', (u.l1.block n).step w = (.ok b, w') → u.l1.Gives blocks n := by
    intro n w b w' hblock w₂
    rw [hu.block n w₂ w, hblock, ht n w b w' hblock]
  -- The first request only finds files of blocks that the client gives, so whatever it fetches is
  -- there for the second one too, on disk or from the client.
  have htracks := tracks_resolve (W := fun _ _ => True)
    (D := fun d d' => d.Mirrors blocks (u.l1.Gives blocks) c.l2ChainId c.inbox ∧
      d'.Mirrors blocks (fun _ => True) c.l2ChainId c.inbox)
    (hu.alike u.l1.block) L1Position.keepsOrder_eq settings c start last
    (fun _ _ _ _ _ _ _ n _ _ => ?_) ⟨w, .empty, .empty⟩ ⟨w', d, .empty⟩
    ⟨trivial, ⟨fun n txs hload => absurd hload nofun, hd.mirrors⟩, rfl⟩
  · have hends := htracks.alike
    rw [h] at hends
    obtain ⟨r', hr', rfl⟩ := hends.exists_of_ok
    exact hr'
  · refine fetchesAlike_of_ok (fun w d w' d' hdisks txs hfetch => ?_)
      fun w d w' d' hdisks => ?_
    · obtain ⟨hn, rfl⟩ := (hdisks.1.fetch ht hgives (fun _ => rfl) n w).2 rfl txs hfetch
      exact fetch_of_gives hn hdisks.2 w'
    · exact ⟨(hdisks.1.fetch ht hgives (fun _ => rfl) n w).1,
        (hdisks.2.fetch ht (fun _ _ _ _ _ => trivial) (fun _ => rfl) n w').1⟩

/-- Finding the window leaves the disk as it is. -/
theorem disk_findWindow {settings : ResolveSettings} {c : Rollup} {times : Word × Word}
    {s s' : Session σ} {window : Word × Word}
    (h : (findWindow u settings c times).step s = (.ok window, s')) : s'.disk = s.disk := by
  have hkeeps := outside_findWindow (u := u) (J := fun t => t.disk = s.disk) settings c times
    fun _ _ => id
  exact (hkeeps.of_ok rfl h).2

/-- The window of a request depends neither on the world nor on what is known already. -/
theorem findWindow_steady (hu : u.IsSteady) {settings : ResolveSettings} {c : Rollup}
    {times : Word × Word} {s s' : Session σ} {window : Word × Word}
    (h : (findWindow u settings c times).step s = (.ok window, s'))
    (block : Word → Effect σ RpcError L1Block) (t : Session σ) :
    ((findWindow (u.withBlocks block) settings c times).step t).1 = .ok window := by
  have htracks := tracks_findWindow (R := fun _ _ => True) (hu.alike block)
    ⟨fun _ _ _ => trivial, fun _ _ _ _ _ _ => trivial⟩ settings c times s t trivial
  rw [h] at htracks
  obtain ⟨window', hwindow', rfl⟩ := htracks.alike.exists_of_ok
  exact hwindow'

/-! ## The same request again -/

/-- The blocks of a window are on disk, as L1 has them. -/
def Disk.Holds (blocks : Word → L1Block) (chain : Word) (inbox : Address) (window : BlockRange)
    (d : Disk) : Prop :=
  ∀ n, window.first ≤ n → n ≤ window.last → d.load? chain n = some ((blocks n).inboxTxs inbox)

/-- A block that is on disk is fetched without asking for it. -/
theorem Disk.Holds.fetch_step {window : BlockRange} (h : d.Holds blocks q.l2ChainId q.inbox window)
    {n : Word} (hfirst : window.first ≤ n) (hlast : n ≤ window.last) (source : L1Source σ) (w : σ) :
    (q.fetch source n).step (w, d) = (.ok ((blocks n).wanted q), (w, d)) :=
  InboxQuery.fetch_step_hit (h n hfirst hlast) w

section
variable {settings : ResolveSettings} {c : Rollup} {start last : Word} {s s' : Session σ}
  {r : Resolution}

/-- **A request that succeeds leaves the blocks of its window on disk**, unless directories are in the
way. -/
theorem holds_resolve (ht : u.l1.Tells blocks) (hd : s.disk.LeftBy blocks c.l2ChainId c.inbox)
    (hfree : ∀ n, r.l1Start ≤ n → n ≤ r.l1End → s.disk.find? c.l2ChainId n ≠ some .directory)
    (h : (resolve u settings c start last).step s = (.ok r, s')) :
    s'.disk.Holds blocks c.l2ChainId c.inbox ⟨r.l1Start, r.l1End⟩ := by
  obtain ⟨times, s₁, closed, dropped, -, hwindow, hscan, -⟩ := resolve_eq_ok h
  have hmirrors : s'.disk.Mirrors blocks (fun _ => True) c.l2ChainId c.inbox := by
    have hkept := disk_resolve (u := u) (c := c)
      (fun n w d (hd : d.Mirrors blocks (fun _ => True) c.l2ChainId c.inbox) =>
        (hd.fetch (q := ⟨c.l2ChainId, c.inbox, c.batcher⟩) ht (fun _ _ _ _ _ => trivial)
          (fun _ => rfl) n w).1) settings start last hd.mirrors
    rw [h] at hkept
    exact hkept
  intro n hfirst hlast
  have hkept : (s'.disk.load? c.l2ChainId n).isSome := by
    refine isSome_load?_scan ?_ hscan hfirst hlast
    rw [disk_findWindow hwindow]
    exact hfree
  obtain ⟨txs, htxs⟩ := Option.isSome_iff_exists.1 hkept
  rw [htxs, (hmirrors n txs htxs).2]

/-- A request for blocks that are on disk does not care for the answers to questions for blocks. -/
theorem resolve_congr_blocks {times : Word × Word} {window : BlockRange}
    {block block' : Word → Effect σ RpcError L1Block}
    (htimes : requestTimes c start last = .ok times)
    (hwindow : ∀ t, ((findWindow (u.withBlocks block) settings c times).step t).1 =
      .ok (window.first, window.last))
    (hholds : s.disk.Holds blocks c.l2ChainId c.inbox window) :
    (resolve (u.withBlocks block) settings c start last).step s =
      (resolve (u.withBlocks block') settings c start last).step s := by
  have hnodes : (u.withBlocks block).Alike False Eq (u.withBlocks block') :=
    ⟨.refl _, fun _ => .refl _, .refl _, fun _ => .refl _, fun _ _ _ => .inl rfl⟩
  have htracks := tracks_resolve
    (D := fun d d' => d = d' ∧ d.Holds blocks c.l2ChainId c.inbox window) hnodes
    L1Position.keepsOrder_eq settings c start last
    (fun times' first final t t' htimes' hfound n hfirst hfinal => ?_) s s ⟨rfl, ⟨rfl, hholds⟩, rfl⟩
  · generalize (resolve (u.withBlocks block) settings c start last).step s = result at htracks ⊢
    generalize (resolve (u.withBlocks block') settings c start last).step s = result' at htracks ⊢
    obtain ⟨result, w, d, blobs⟩ := result
    obtain ⟨result', w', d', blobs'⟩ := result'
    obtain rfl : result = result' := htracks.alike.eq
    obtain ⟨rfl, ⟨rfl, -⟩, rfl⟩ := htracks.states
    rfl
  · obtain rfl : times' = times := Except.ok.inj (htimes'.symm.trans htimes)
    have hsame := hwindow t
    rw [hfound] at hsame
    cases hsame
    rintro w d _ _ rfl ⟨rfl, hd⟩
    rw [hd.fetch_step hfirst hfinal, hd.fetch_step hfirst hfinal]
    exact ⟨.ok (InboxTx.forall₂_alike_refl _), rfl, rfl, hd⟩

/-- **A request that has succeeded asks for no block when it is repeated**: its result, and the state
in the end, are the same whatever the answers were. -/
theorem resolve_again (hu : u.IsSteady) (ht : u.l1.Tells blocks)
    (hd : s.disk.LeftBy blocks c.l2ChainId c.inbox) (hblobs : s.blobs = .empty)
    (hfree : ∀ n, r.l1Start ≤ n → n ≤ r.l1End → s.disk.find? c.l2ChainId n ≠ some .directory)
    (h : (resolve u settings c start last).step s = (.ok r, s')) (w : σ) :
    ∃ t, ∀ block, (resolve (u.withBlocks block) settings c start last).step
      ⟨w, s'.disk, .empty⟩ = (.ok r, t) := by
  have hholds := holds_resolve ht hd hfree h
  obtain ⟨times, s₁, -, -, htimes, hwindow, -, -⟩ := resolve_eq_ok h
  -- The window is the same as before, so there is a file for each block, with what was fetched then.
  have htracks := tracks_resolve (W := fun _ _ => True)
    (D := fun d d' => d.Mirrors blocks (fun _ => True) c.l2ChainId c.inbox ∧
      d'.Holds blocks c.l2ChainId c.inbox ⟨r.l1Start, r.l1End⟩)
    (hu.alike u.l1.block) L1Position.keepsOrder_eq settings c start last
    (fun times' first final t t' htimes' hfound n hfirst hfinal => ?_) s ⟨w, s'.disk, .empty⟩
    ⟨trivial, ⟨hd.mirrors, hholds⟩, hblobs⟩
  · have hends := htracks.alike
    rw [h] at hends
    obtain ⟨r', hr', rfl⟩ := hends.exists_of_ok
    refine ⟨((resolve (u.withBlocks u.l1.block) settings c start last).step
      ⟨w, s'.disk, .empty⟩).2, fun block => ?_⟩
    refine (resolve_congr_blocks (s := ⟨w, s'.disk, .empty⟩) htimes
      (findWindow_steady hu hwindow block) hholds).trans (Prod.ext hr' rfl)
  · obtain rfl : times' = times := Except.ok.inj (htimes'.symm.trans htimes)
    have hsame : (first, final) = (r.l1Start, r.l1End) := Except.ok.inj
      ((findWindow_steady hu hfound u.l1.block t).symm.trans
        (findWindow_steady hu hwindow u.l1.block t))
    cases hsame
    have hhit : ∀ d w, d.Holds blocks c.l2ChainId c.inbox ⟨r.l1Start, r.l1End⟩ →
        ((⟨c.l2ChainId, c.inbox, c.batcher⟩ : InboxQuery).fetch u.l1 n).step (w, d) =
          (.ok ((blocks n).wanted ⟨c.l2ChainId, c.inbox, c.batcher⟩), (w, d)) :=
      fun d w hd => hd.fetch_step hfirst hfinal u.l1 w
    refine fetchesAlike_of_ok (fun w d w' d' hdisks txs hfetch => ?_) fun w d w' d' hdisks => ?_
    · obtain ⟨-, rfl⟩ := (hdisks.1.fetch ht (fun _ _ _ _ _ => trivial) (fun _ => rfl) n w).2 rfl
        txs hfetch
      exact congrArg Prod.fst (hhit d' w' hdisks.2)
    · rw [show (u.withBlocks u.l1.block).l1 = u.l1 from rfl, hhit d' w' hdisks.2]
      exact ⟨(hdisks.1.fetch ht (fun _ _ _ _ _ => trivial) (fun _ => rfl) n w).1, hdisks.2⟩

end

/-- **The disk does not show.**  A request that succeeds without files succeeds with those that
earlier requests have left, and its result is the same.  When it has succeeded, and no directory was
in the way of the files that it wrote, it asks for no block when it is repeated. -/
theorem resolve_transparent (hu : u.IsSteady) (ht : u.l1.Tells blocks) (settings : ResolveSettings)
    (c : Rollup) (start last : Word) (r : Resolution)
    (hd : d.LeftBy blocks c.l2ChainId c.inbox) :
    (∀ w, ((resolve u settings c start last).step ⟨w, .empty, .empty⟩).1 = .ok r →
      ∀ w', ((resolve (u.withBlocks u.l1.block) settings c start last).step
        ⟨w', d, .empty⟩).1 = .ok r) ∧
    (∀ w s, (resolve u settings c start last).step ⟨w, d, .empty⟩ = (.ok r, s) →
      (∀ n, r.l1Start ≤ n → n ≤ r.l1End → d.find? c.l2ChainId n ≠ some .directory) →
      ∀ w', ∃ s', ∀ block, (resolve (u.withBlocks block) settings c start last).step
        ⟨w', s.disk, .empty⟩ = (.ok r, s')) :=
  ⟨fun _ h _ => resolve_of_empty hu ht h hd,
    fun _ _ h hfree w' => resolve_again hu ht hd rfl hfree h w'⟩

end

/-! ### An example

The request for the channel in two blocks, after one for fewer blocks that looked for another
batcher. -/

theorem resolve_threeBlocks :
    ((resolve threeBlocksNodes threeBlocksSettings threeBlocksRollup 10 12).step
      ⟨(), .empty, .empty⟩).1 = .ok ⟨[⟨10, 12⟩], [], 0, 3⟩ := by
  decide +kernel

/-- Another batcher for the same inbox. -/
def otherBatcher : Rollup := { threeBlocksRollup with batcher := ⟨1 :: List.replicate 19 0, rfl⟩ }

/-- Where the earlier request ends. -/
def threeBlocksBefore : Session Unit :=
  ((resolve threeBlocksNodes ⟨0, 1, false, 10⟩ otherBatcher 10 10).step ⟨(), .empty, .empty⟩).2

theorem threeBlocksL1_tells : threeBlocksNodes.l1.Tells threeBlocksL1.block := by
  intro n w b w' h
  cases h
  rfl

theorem threeBlocksBefore_leftBy :
    threeBlocksBefore.disk.LeftBy threeBlocksL1.block 901 (BytesN.zero 20) :=
  .resolve (d := .empty) (.start fun _ => rfl) threeBlocksL1_tells (c := otherBatcher)
    (fun _ => rfl) _ _ _ ()

theorem threeBlocksBefore_free (n : Word) :
    threeBlocksBefore.disk.find? 901 n ≠ some .directory :=
  (disk_resolve (I := Disk.Keeps 901 .empty)
    (fun m w _ hd => hd.trans (Disk.keeps_fetch 901 m (w, _))) _ _ _ (.refl 901 .empty)).find n nofun

theorem resolve_transparent_threeBlocks : ∃ s s',
    (resolve threeBlocksNodes threeBlocksSettings threeBlocksRollup 10 12).step
        ⟨(), threeBlocksBefore.disk, .empty⟩ = (.ok ⟨[⟨10, 12⟩], [], 0, 3⟩, s) ∧
      ∀ block, (resolve (threeBlocksNodes.withBlocks block) threeBlocksSettings threeBlocksRollup
        10 12).step ⟨(), s.disk, .empty⟩ = (.ok ⟨[⟨10, 12⟩], [], 0, 3⟩, s') := by
  have hsteady : threeBlocksNodes.IsSteady :=
    ⟨fun _ _ => rfl, fun _ _ _ => rfl, fun _ _ _ => rfl, fun _ _ => rfl, fun _ _ _ => rfl⟩
  obtain ⟨hsame, hagain⟩ := resolve_transparent hsteady threeBlocksL1_tells threeBlocksSettings
    threeBlocksRollup 10 12 ⟨[⟨10, 12⟩], [], 0, 3⟩ threeBlocksBefore_leftBy
  have hdone := hsame () resolve_threeBlocks ()
  obtain ⟨s', hs'⟩ := hagain () _ (Prod.ext hdone rfl) (fun n _ _ => threeBlocksBefore_free n) ()
  exact ⟨_, s', Prod.ext hdone rfl, hs'⟩

end BatchInbox
