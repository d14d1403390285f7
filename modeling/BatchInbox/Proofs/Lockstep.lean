import BatchInbox.Proofs.Renumbering
import BatchInbox.Proofs.Scan

/-!
# Two requests side by side

The same request is resolved twice, with other nodes, another disk, or in another world.  If the
nodes answer alike, and blocks are fetched alike from either disk, then both requests go through the
same steps, and their results are the same.

What it means that worlds and disks belong together is left open: it has to be enough for the nodes
to answer alike, and for blocks to be fetched alike.  Transactions need not be numbered in the same
way, as long as they are in the same order.

## What is here

* `Session.Alike`, `Session.GoOn`, `Endpoints.Alike` — sessions and nodes that belong together.
* `tracks_findWindow` — both find the same window.
* `tracks_blobsFor` — both find the same blobs.
* `tracks_scan` — both read the same channels.
* `tracks_resolve` — both end alike.
-/

set_option autoImplicit false
namespace BatchInbox
open Effect (Tracks)

section
variable {lenient : Prop} {σ τ : Type} {W : σ → τ → Prop} {D : Disk → Disk → Prop}
  {S : L1Position → L1Position → Prop}

/-- Sessions that belong together know the same of blobs. -/
structure Session.Alike (W : σ → τ → Prop) (D : Disk → Disk → Prop) (s : Session σ)
    (t : Session τ) : Prop where
  world : W s.world t.world
  disk : D s.disk t.disk
  blobs : s.blobs = t.blobs

/-- Nodes that answer alike, except for the transactions of blocks, and callers that give up
together. -/
structure Endpoints.Alike (lenient : Prop) (W : σ → τ → Prop) (u : Endpoints σ) (v : Endpoints τ) :
    Prop where
  finalized : Tracks lenient W Eq u.l1.finalized v.l1.finalized
  header : ∀ n, Tracks lenient W Eq (u.l1.header n) (v.l1.header n)
  timing : Tracks lenient W Eq u.beacon.timing v.beacon.timing
  sidecars : ∀ slot, Tracks lenient W Eq (u.beacon.sidecars slot) (v.beacon.sidecars slot)
  isCancelled : ∀ w w', W w w' → u.isCancelled w = v.isCancelled w' ∨
    lenient ∧ v.isCancelled w' = false

variable {u : Endpoints σ} {v : Endpoints τ} {ε α β : Type} {P : α → β → Prop}

/-- Nodes answer as they do. -/
theorem Endpoints.alike_refl (u : Endpoints σ) : u.Alike lenient Eq u where
  finalized := .refl _
  header _ := .refl _
  timing := .refl _
  sidecars _ := .refl _
  isCancelled w w' h := .inl (by rw [h])

/-! ## Parts of a session -/

/-- Sessions in worlds that belong together, whatever the rest of them is: they stay so when only
their worlds go on. -/
structure Session.GoOn (W : σ → τ → Prop) (R : Session σ → Session τ → Prop) : Prop where
  world : ∀ s t, R s t → W s.world t.world
  goOn : ∀ s t w w', R s t → W w w' → R { s with world := w } { t with world := w' }

theorem Session.Alike.goOn : Session.GoOn W (Session.Alike W D) :=
  ⟨fun _ _ hst => hst.world, fun _ _ _ _ hst hw => ⟨hw, hst.disk, hst.blobs⟩⟩

theorem tracks_onWorld {R : Session σ → Session τ → Prop} (hR : Session.GoOn W R)
    {e : Effect σ ε α} {e' : Effect τ ε β} (h : Tracks lenient W P e e') :
    Tracks lenient R P (onWorld e) (onWorld e') :=
  h.zoom hR.world hR.goOn

theorem tracks_onDisk {e : Effect (σ × Disk) ε α} {e' : Effect (τ × Disk) ε β}
    (h : Tracks lenient (fun s t => W s.1 t.1 ∧ D s.2 t.2) P e e') :
    Tracks lenient (Session.Alike W D) P (onDisk e) (onDisk e') :=
  h.zoom (fun _ _ hst => ⟨hst.world, hst.disk⟩) fun _ _ _ _ hst hs => ⟨hs.1, hs.2, hst.blobs⟩

theorem tracks_onBlobs {e : Effect (σ × BlobMemo) ε α} {e' : Effect (τ × BlobMemo) ε β}
    (h : Tracks lenient (fun s t => W s.1 t.1 ∧ s.2 = t.2) P e e') :
    Tracks lenient (Session.Alike W D) P (onBlobs e) (onBlobs e') :=
  h.zoom (fun _ _ hst => ⟨hst.world, hst.blobs⟩) fun _ _ _ _ hst hs => ⟨hs.1, hst.disk, hs.2⟩

theorem tracks_onFst {M : Type} {e : Effect σ ε α} {e' : Effect τ ε β} (h : Tracks lenient W P e e') :
    Tracks lenient (fun (s : σ × M) (t : τ × M) => W s.1 t.1 ∧ s.2 = t.2) P e.onFst e'.onFst :=
  h.zoom (fun _ _ hst => hst.1) fun _ _ _ _ hst hw => ⟨hw, hst.2⟩

theorem tracks_unlessCancelled {R : Session σ → Session τ → Prop} (hu : u.Alike lenient W v)
    (hR : ∀ s t, R s t → W s.world t.world) {e : Effect (Session σ) ResolveError α}
    {e' : Effect (Session τ) ResolveError β} (h : Tracks lenient R P e e') :
    Tracks lenient R P (u.unlessCancelled e) (v.unlessCancelled e') := by
  refine Tracks.get.bind fun s t hst => ?_
  rcases hu.isCancelled _ _ (hR s t hst) with hsame | ⟨hlenient, hgoes⟩
  · rw [hsame]
    split
    · exact .throw _
    · exact h
  · rw [hgoes]
    split
    · exact fun s t _ => .excused hlenient _ _ _
    · exact h

/-! ## The window -/

theorem tracks_bisect {R : σ → τ → Prop} {isLow : Nat → Effect σ ε Bool}
    {isLow' : Nat → Effect τ ε Bool} (h : ∀ n, Tracks lenient R Eq (isLow n) (isLow' n))
    (low high : Nat) :
    Tracks lenient R Eq (bisect isLow low high) (bisect isLow' low high) := by
  induction hgap : high - low using Nat.strongRecOn generalizing low high with
  | ind gap ih =>
    rw [bisect.eq_def isLow low high, bisect.eq_def isLow' low high]
    split
    · refine (h _).bindSame fun isLower => ?_
      split
      · exact ih _ (by omega) _ _ rfl
      · exact ih _ (by omega) _ _ rfl
    · exact .pure rfl

section
variable {source : L1Source σ} {source' : L1Source τ}

/-- Both ends of the window are found by asking for headers only. -/
theorem tracks_timeOf (h : ∀ n, Tracks lenient W Eq (source.header n) (source'.header n)) (n : Nat) :
    Tracks lenient W Eq (timeOf source n) (timeOf source' n) :=
  (h _).bindSame fun _ => .pure rfl

theorem tracks_lastAtOrBefore (h : ∀ n, Tracks lenient W Eq (source.header n) (source'.header n))
    (time : Word) (head : L1Header) :
    Tracks lenient W Eq (lastAtOrBefore source time head) (lastAtOrBefore source' time head) := by
  rw [lastAtOrBefore, lastAtOrBefore]
  split
  · exact .pure rfl
  · refine (tracks_bisect (fun n => ?_) _ _).bindSame fun ends => .pure rfl
    exact (tracks_timeOf h n).bindSame fun t => .pure rfl

theorem tracks_firstAtOrAfter (h : ∀ n, Tracks lenient W Eq (source.header n) (source'.header n))
    (time : Word) (head : L1Header) :
    Tracks lenient W Eq (firstAtOrAfter source time head) (firstAtOrAfter source' time head) := by
  rw [firstAtOrAfter, firstAtOrAfter]
  split
  · exact .pure rfl
  · refine (tracks_timeOf h 0).bindSame fun t => ?_
    split
    · exact .pure rfl
    · refine (tracks_bisect (fun n => ?_) _ _).bindSame fun ends => .pure rfl
      exact (tracks_timeOf h n).bindSame fun t => .pure rfl

end

/-- **Both find the same window**, and look at nothing but the world for it. -/
theorem tracks_findWindow {R : Session σ → Session τ → Prop} (hu : u.Alike lenient W v)
    (hR : Session.GoOn W R) (settings : ResolveSettings) (c : Rollup) (times : Word × Word) :
    Tracks lenient R Eq (findWindow u settings c times) (findWindow v settings c times) := by
  refine (tracks_unlessCancelled hu hR.world (tracks_onWorld hR hu.finalized.mapError)).bindSame
    fun head => ?_
  refine (tracks_unlessCancelled hu hR.world
    (tracks_onWorld hR (tracks_lastAtOrBefore hu.header _ head).mapError)).bindSame fun first => ?_
  refine (tracks_unlessCancelled hu hR.world
    (tracks_onWorld hR (tracks_firstAtOrAfter hu.header _ head).mapError)).bindSame fun last => ?_
  exact .pure rfl

/-! ## Blobs -/

theorem tracks_knownTiming (hu : u.Alike lenient W v) :
    Tracks lenient (fun s t => W s.1 t.1 ∧ s.2 = t.2) Eq (knownTiming u.beacon)
      (knownTiming v.beacon) := by
  refine Tracks.get.bind fun s t hst => ?_
  rw [hst.2]
  split
  · exact .pure rfl
  · refine (tracks_onFst hu.timing.mapError).bindSame fun timing => ?_
    refine (Tracks.modify fun s t hst => ⟨hst.1, ?_⟩).bind fun _ _ _ => .pure rfl
    simp only [hst.2]

theorem tracks_slotOf (hu : u.Alike lenient W v) (time : Word) :
    Tracks lenient (fun s t => W s.1 t.1 ∧ s.2 = t.2) Eq (slotOf u.beacon time)
      (slotOf v.beacon time) := by
  refine (tracks_knownTiming hu).bindSame fun timing => ?_
  split
  · exact .throw _
  · exact .pure rfl

theorem tracks_sidecarsOf (hu : u.Alike lenient W v) (slot : Word) :
    Tracks lenient (fun s t => W s.1 t.1 ∧ s.2 = t.2) Eq (sidecarsOf u.beacon slot)
      (sidecarsOf v.beacon slot) := by
  have hask : Tracks lenient (fun s t => W s.1 t.1 ∧ s.2 = t.2) Eq
      (sidecarsOf.ask u.beacon slot) (sidecarsOf.ask v.beacon slot) := by
    refine (tracks_onFst (hu.sidecars slot).mapError).bindSame fun sidecars => ?_
    refine (Tracks.modify fun s t hst => ⟨hst.1, ?_⟩).bind fun _ _ _ => .pure rfl
    simp only [hst.2]
  refine Tracks.get.bind fun s t hst => ?_
  rw [hst.2]
  split
  · split
    · exact .pure rfl
    · exact hask
  · exact hask

theorem tracks_fetchBlobs (hu : u.Alike lenient W v) (time : Word) (hashes : List Hash)
    (indices : List Word) :
    Tracks lenient (fun s t => W s.1 t.1 ∧ s.2 = t.2) Eq
      (fetchBlobs u.beacon time hashes indices) (fetchBlobs v.beacon time hashes indices) := by
  rw [fetchBlobs, fetchBlobs]
  split
  · exact .pure rfl
  · refine (tracks_slotOf hu time).bindSame fun slot => ?_
    refine (tracks_sidecarsOf hu slot).bindSame fun sidecars => ?_
    split
    · exact .throw _
    · exact .pure rfl

/-- **Both find the same blobs** for transactions that are alike. -/
theorem tracks_blobsFor (hu : u.Alike lenient W v) {tx tx' : InboxTx} (h : tx.Alike S tx') :
    Tracks lenient (fun s t => W s.1 t.1 ∧ s.2 = t.2) Eq (blobsFor u.beacon tx)
      (blobsFor v.beacon tx') := by
  rw [h.eq]
  show Tracks lenient _ Eq (blobsFor u.beacon tx) (blobsFor v.beacon tx)
  rw [blobsFor, blobsFor]
  split
  · exact .pure rfl
  · refine (tracks_fetchBlobs hu _ _ _).bindSame fun found => ?_
    split
    · exact .throw _
    · exact .pure rfl

/-! ## Blocks -/

/-- Both fetch a block alike, and worlds and disks belong together afterwards even if that fails. -/
def InboxQuery.FetchesAlike (lenient : Prop) (W : σ → τ → Prop) (D : Disk → Disk → Prop)
    (S : L1Position → L1Position → Prop) (q : InboxQuery) (source : L1Source σ)
    (source' : L1Source τ) (n : Word) : Prop :=
  ∀ w d w' d', W w w' → D d d' →
    Alike lenient (List.Forall₂ (InboxTx.Alike S)) ((q.fetch source n).step (w, d)).1
        ((q.fetch source' n).step (w', d')).1 ∧
      W ((q.fetch source n).step (w, d)).2.1 ((q.fetch source' n).step (w', d')).2.1 ∧
      D ((q.fetch source n).step (w, d)).2.2 ((q.fetch source' n).step (w', d')).2.2

/-- Blocks that were fetched alike. -/
def FetchedBlock.Alike (lenient : Prop) (S : L1Position → L1Position → Prop) :
    FetchedBlock → FetchedBlock → Prop :=
  BatchInbox.Alike lenient fun b b' => b'.1 = b.1 ∧ List.Forall₂ (InboxTx.Alike S) b.2 b'.2

/-- The same blocks wait, all of them among those of `F`, and the others were fetched alike. -/
structure Lookahead.Alike (lenient : Prop) (S : L1Position → L1Position → Prop) (F : Word → Prop)
    (ahead ahead' : Lookahead) : Prop where
  waiting : ahead'.waiting = ahead.waiting
  mem : ∀ n ∈ ahead.waiting, F n
  ready : List.Forall₂ (FetchedBlock.Alike lenient S) ahead.ready ahead'.ready

variable {q : InboxQuery} {F : Word → Prop}

theorem tracks_fetchSome (hfetch : ∀ n, F n → q.FetchesAlike lenient W D S u.l1 v.l1 n)
    {ready ready' : List FetchedBlock} {waiting : List Word}
    (h : (⟨waiting, ready⟩ : Lookahead).Alike lenient S F ⟨waiting, ready'⟩) (room : Nat) :
    Tracks lenient (fun s t => W s.1 t.1 ∧ D s.2 t.2) (Lookahead.Alike lenient S F)
      (fetchSome q u.l1 ready room waiting) (fetchSome q v.l1 ready' room waiting) := by
  induction room generalizing ready ready' waiting with
  | zero => exact .pure h
  | succ room ih =>
    cases waiting with
    | nil => exact .pure h
    | cons n waiting =>
      obtain ⟨hn, hwaiting⟩ := List.forall_mem_cons.1 h.mem
      have hattempt : Tracks lenient (fun s t => W s.1 t.1 ∧ D s.2 t.2)
          (Alike lenient (List.Forall₂ (InboxTx.Alike S)))
          ((q.fetch u.l1 n).attempt : Effect (σ × Disk) ResolveError _)
          (q.fetch v.l1 n).attempt := fun s t hst =>
        have ⟨hresult, hs⟩ := hfetch n hn s.1 s.2 t.1 t.2 hst.1 hst.2
        .ok hresult hs
      refine hattempt.bind fun fetched fetched' hfetched => ?_
      have hblock : FetchedBlock.Alike lenient S (fetched.map fun txs => (n, txs))
          (fetched'.map fun txs => (n, txs)) := hfetched.map fun txs txs' htxs => ⟨rfl, htxs⟩
      exact ih ⟨rfl, hwaiting, List.rel_append h.ready (.cons hblock .nil)⟩

/-- What the next block is, if there is one. -/
inductive NextAlike (lenient : Prop) (S : L1Position → L1Position → Prop) (F : Word → Prop) :
    Option (FetchedBlock × Lookahead) → Option (FetchedBlock × Lookahead) → Prop where
  | none : NextAlike lenient S F none none
  | some {block block' : FetchedBlock} {ahead ahead' : Lookahead}
    (hblock : block.Alike lenient S block') (hahead : ahead.Alike lenient S F ahead') :
    NextAlike lenient S F (some (block, ahead)) (some (block', ahead'))

theorem tracks_next (hfetch : ∀ n, F n → q.FetchesAlike lenient W D S u.l1 v.l1 n)
    {ahead ahead' : Lookahead} (h : ahead.Alike lenient S F ahead') (concurrency : Nat) :
    Tracks lenient (fun s t => W s.1 t.1 ∧ D s.2 t.2) (NextAlike lenient S F)
      (ahead.next q u.l1 concurrency) (ahead'.next q v.l1 concurrency) := by
  obtain ⟨waiting, ready⟩ := ahead
  obtain ⟨waiting', ready'⟩ := ahead'
  obtain rfl : waiting' = waiting := h.waiting
  have hlength : ready'.length = ready.length := h.ready.length_eq.symm
  rw [Lookahead.next, Lookahead.next, hlength]
  refine (tracks_fetchSome hfetch h _).bind fun fetched fetched' hfetched => ?_
  obtain ⟨waiting, ready⟩ := fetched
  obtain ⟨waiting', ready'⟩ := fetched'
  obtain ⟨hwaiting, hmem, hready⟩ := hfetched
  cases hready with
  | nil => exact .pure .none
  | cons hblock hready => exact .pure (.some hblock ⟨hwaiting, hmem, hready⟩)

/-! ## Channels -/

/-- The intake in one state, and channels that are alike. -/
def ReadAlike (S : L1Position → L1Position → Prop) (r r' : Intake × List ClosedChannel) : Prop :=
  r'.1 = r.1 ∧ List.Forall₂ (ClosedChannel.Alike S) r.2 r'.2

/-- Steps of the intake that give what belongs together, and leave it in one state. -/
theorem tracks_ofIntake {r : Except Intake.Error α × Intake} {r' : Except Intake.Error β × Intake}
    (h : BatchInbox.Alike False P r.1 r'.1) (hs : r'.2 = r.2) :
    Tracks lenient (Session.Alike W D) (fun x y => P x.1 y.1 ∧ y.2 = x.2) (ofIntake r)
      (ofIntake r') := by
  obtain ⟨result, s⟩ := r
  obtain ⟨result', s'⟩ := r'
  cases h with
  | ok h => exact .pure ⟨h, hs⟩
  | error e => exact .throw _
  | excused h => exact h.elim

theorem tracks_takeTxs (hu : u.Alike lenient W v) (hS : L1Position.KeepsOrder S)
    {txs txs' : List InboxTx} (htxs : List.Forall₂ (InboxTx.Alike S) txs txs') (intake : Intake)
    {closed closed' : List ClosedChannel}
    (hclosed : List.Forall₂ (ClosedChannel.Alike S) closed closed') :
    Tracks lenient (Session.Alike W D) (ReadAlike S) (takeTxs u intake closed txs)
      (takeTxs v intake closed' txs') := by
  induction htxs generalizing intake closed closed' with
  | nil => exact .pure ⟨rfl, hclosed⟩
  | @cons tx tx' txs txs' htx _ ih =>
    refine (tracks_unlessCancelled hu Session.Alike.goOn.world
      (tracks_onBlobs (tracks_blobsFor hu htx))).bindSame fun blobs => ?_
    obtain ⟨hdone, hstate⟩ := Intake.alike_push hS intake htx blobs
    refine (tracks_ofIntake hdone hstate).bind fun r r' hr => ?_
    obtain ⟨done, intake'⟩ := r
    obtain ⟨done', intake''⟩ := r'
    obtain ⟨hdone, heq⟩ := hr
    obtain rfl : intake'' = intake' := heq
    exact ih intake'' (List.rel_append hclosed hdone)

theorem tracks_takeBlock (hu : u.Alike lenient W v) (hS : L1Position.KeepsOrder S)
    {txs txs' : List InboxTx} (htxs : List.Forall₂ (InboxTx.Alike S) txs txs') (intake : Intake)
    (number : Word) {closed closed' : List ClosedChannel}
    (hclosed : List.Forall₂ (ClosedChannel.Alike S) closed closed') :
    Tracks lenient (Session.Alike W D) (ReadAlike S) (takeBlock u intake closed number txs)
      (takeBlock v intake closed' number txs') := by
  refine (tracks_unlessCancelled hu Session.Alike.goOn.world
    (tracks_ofIntake (.refl (intake.advance number).1) rfl)).bind fun r r' hr => ?_
  obtain ⟨⟨⟩, reached⟩ := r
  obtain ⟨⟨⟩, reached'⟩ := r'
  obtain rfl : reached' = reached := hr.2
  exact tracks_takeTxs hu hS htxs reached' hclosed

/-- **Both read the same channels** from the blocks that are left. -/
theorem tracks_scanFrom (hu : u.Alike lenient W v) (hS : L1Position.KeepsOrder S)
    (hfetch : ∀ n, F n → q.FetchesAlike lenient W D S u.l1 v.l1 n) (concurrency rounds : Nat)
    {ahead ahead' : Lookahead} (hahead : ahead.Alike lenient S F ahead') (intake : Intake)
    {closed closed' : List ClosedChannel}
    (hclosed : List.Forall₂ (ClosedChannel.Alike S) closed closed') :
    Tracks lenient (Session.Alike W D) (ReadAlike S)
      (scanFrom u q concurrency rounds ahead intake closed)
      (scanFrom v q concurrency rounds ahead' intake closed') := by
  induction rounds generalizing ahead ahead' intake closed closed' with
  | zero => exact .pure ⟨rfl, hclosed⟩
  | succ rounds ih =>
    refine (tracks_unlessCancelled hu Session.Alike.goOn.world
      (tracks_onDisk (tracks_next hfetch hahead concurrency))).bind
      fun next next' hnext => ?_
    cases hnext with
    | none => exact .pure ⟨rfl, hclosed⟩
    | @some block block' ahead ahead' hblock hahead =>
      cases hblock with
      | error e => exact .throw _
      | excused hlenient e r => exact fun s t _ => .excused hlenient _ _ _
      | @ok b b' hb =>
        obtain ⟨number, txs⟩ := b
        obtain ⟨number', txs'⟩ := b'
        obtain ⟨rfl, htxs⟩ := hb
        refine (tracks_takeBlock hu hS htxs intake number' hclosed).bind fun read read' hread => ?_
        obtain ⟨intake₁, closed₁⟩ := read
        obtain ⟨intake₂, closed₂⟩ := read'
        obtain rfl : intake₂ = intake₁ := hread.1
        exact ih hahead intake₂ hread.2

/-- **Both read the same channels** in a window. -/
theorem tracks_scan (hu : u.Alike lenient W v) (hS : L1Position.KeepsOrder S) (c : Rollup)
    (concurrency : Nat) {first last : Word}
    (hfetch : ∀ n, first ≤ n → n ≤ last →
      (⟨c.l2ChainId, c.inbox, c.batcher⟩ : InboxQuery).FetchesAlike lenient W D S u.l1 v.l1 n) :
    Tracks lenient (Session.Alike W D)
      (fun r r' => List.Forall₂ (ClosedChannel.Alike S) r.1 r'.1 ∧ r'.2 = r.2)
      (scan u c concurrency first last) (scan v c concurrency first last) := by
  have hahead : (⟨InboxQuery.blocksBetween first last, []⟩ : Lookahead).Alike lenient S
      (fun n => first ≤ n ∧ n ≤ last) ⟨InboxQuery.blocksBetween first last, []⟩ :=
    ⟨rfl, fun n hn => InboxQuery.mem_blocksBetween.1 hn, .nil⟩
  refine (tracks_scanFrom hu hS (fun n hn => hfetch n hn.1 hn.2) concurrency _ hahead _ .nil).bind
    fun read read' hread => ?_
  obtain ⟨intake, closed⟩ := read
  obtain ⟨intake', closed'⟩ := read'
  obtain ⟨heq, hclosed⟩ := hread
  obtain rfl : intake' = intake := heq
  exact .pure ⟨hclosed, rfl⟩

/-! ## Requests -/

/-- **Both requests end alike.**  The nodes answer alike, and blocks of the window are fetched
alike. -/
theorem tracks_resolve (hu : u.Alike lenient W v) (hS : L1Position.KeepsOrder S)
    (settings : ResolveSettings) (c : Rollup) (start last : Word)
    (hfetch : ∀ times first final s s', requestTimes c start last = .ok times →
      (findWindow u settings c times).step s = (.ok (first, final), s') →
      ∀ n, first ≤ n → n ≤ final →
        (⟨c.l2ChainId, c.inbox, c.batcher⟩ : InboxQuery).FetchesAlike lenient W D S u.l1 v.l1 n) :
    Tracks lenient (Session.Alike W D) Eq (resolve u settings c start last)
      (resolve v settings c start last) := by
  rw [resolve, resolve]
  cases htimes : requestTimes c start last with
  | error cause => exact .throw _
  | ok times =>
    refine ((tracks_findWindow hu Session.Alike.goOn settings c times).and fun s window s' hfound =>
      hfetch times window.1 window.2 s s' htimes hfound).bind fun window window' hwindow => ?_
    obtain ⟨first, final⟩ := window
    obtain ⟨heq, hfetch⟩ := hwindow
    subst heq
    refine (tracks_scan hu hS c settings.concurrency hfetch).bind fun read read' hread => ?_
    obtain ⟨closed, dropped⟩ := read
    obtain ⟨closed', dropped'⟩ := read'
    obtain ⟨hclosed, heq⟩ := hread
    obtain rfl : dropped' = dropped := heq
    have hsame := assemble_eq hS hclosed settings c ⟨start, last⟩ ⟨first, final⟩ dropped'
    dsimp only at hsame ⊢
    rw [hsame]
    cases assemble settings c ⟨start, last⟩ ⟨first, final⟩ closed dropped' with
    | error e => exact .throw e
    | ok resolution => exact .pure rfl

end
end BatchInbox
