import BatchInbox.Proofs.Fetching
import BatchInbox.Proofs.Lockstep

/-!
# A scan keeps what it reads

Whatever a scan has fetched is on disk afterwards, unless something stands in the way.  Blocks are
fetched ahead of those that are read, so in between some are on disk that are not read yet, and some
have failed without anyone noticing.  But a scan that ends has read all its blocks, so none of them
has failed.

## What is here

* `Disk.Keeps` — what is readable stays so, and nothing comes in the way; `Disk.keeps_fetch`.
* `Lookahead.Covers` — every block waits, is on disk, or has failed.
* `Lookahead.Covers.fetchSome`, `Lookahead.Covers.next` — the steps.
* `isSome_load?_scan` — the blocks of a scan that ends are on disk.
-/

set_option autoImplicit false
namespace BatchInbox

section
variable {σ : Type} {u : Endpoints σ} {source : L1Source σ} {q : InboxQuery}

/-! ## The disk -/

/-- What is readable stays readable, and no directories come in the way. -/
structure Disk.Keeps (chain : Word) (d d' : Disk) : Prop where
  load : ∀ n, (d.load? chain n).isSome → (d'.load? chain n).isSome
  find : ∀ n, d.find? chain n ≠ some .directory → d'.find? chain n ≠ some .directory

theorem Disk.Keeps.refl (chain : Word) (d : Disk) : d.Keeps chain d := ⟨fun _ => id, fun _ => id⟩

theorem Disk.Keeps.trans {chain : Word} {d d' d'' : Disk} (h : d.Keeps chain d')
    (h' : d'.Keeps chain d'') : d.Keeps chain d'' :=
  ⟨fun n hn => h'.load n (h.load n hn), fun n hn => h'.find n (h.find n hn)⟩

/-- An attempt to write keeps everything. -/
theorem Disk.keeps_getD_store? (chain : Word) (d : Disk) (chain' n : Word) (txs : List InboxTx) :
    d.Keeps chain ((d.store? chain' n txs).getD d) := by
  cases hstore : d.store? chain' n txs with
  | none => exact .refl chain d
  | some d' =>
    refine ⟨fun m hm => ?_, fun m hm => ?_⟩
    · rw [Option.getD_some, load?_store? hstore]
      split
      · rfl
      · exact hm
    · rw [Option.getD_some, eq_put_of_store? hstore]
      by_cases hkey : (chain, m) = (chain', n)
      · cases hkey
        rw [find?_put_self]
        intro hdirectory
        cases hdirectory
      · rwa [find?_put_of_ne hkey]

/-- Fetching a block keeps everything. -/
theorem Disk.keeps_fetch (chain : Word) (n : Word) (s : σ × Disk) :
    s.2.Keeps chain ((q.fetch source n).step s).2.2 := by
  obtain ⟨w, d⟩ := s
  cases hload : d.load? q.l2ChainId n with
  | some txs =>
    rw [InboxQuery.fetch_step_hit hload]
    exact .refl chain d
  | none =>
    rw [InboxQuery.fetch_step hload]
    rcases (source.block n).step w with ⟨e | b, w'⟩
    · exact .refl chain d
    · exact keeps_getD_store? chain d _ _ _

/-- What was fetched is on disk. -/
theorem InboxQuery.isSome_load?_fetch {n : Word} {s s' : σ × Disk} {txs : List InboxTx}
    (hfree : s.2.find? q.l2ChainId n ≠ some .directory)
    (h : (q.fetch source n).step s = (.ok txs, s')) : (s'.2.load? q.l2ChainId n).isSome := by
  obtain ⟨w, d⟩ := s
  cases hload : d.load? q.l2ChainId n with
  | some stored =>
    rw [fetch_step_hit hload] at h
    cases h
    rw [hload]
    rfl
  | none =>
    rw [fetch_step hload] at h
    rcases hblock : (source.block n).step w with ⟨e | b, w'⟩ <;> rw [hblock] at h <;> cases h
    rw [Disk.load?_getD_store?_self hfree]
    rfl

/-! ## Fetching ahead -/

/-- Every one of the blocks waits, is on disk, or has failed. -/
structure Lookahead.Covers (chain : Word) (numbers : List Word) (ahead : Lookahead) (d : Disk) :
    Prop where
  covers : ∀ n ∈ numbers,
    n ∈ ahead.waiting ∨ (d.load? chain n).isSome ∨ ∃ e, .error e ∈ ahead.ready
  free : ∀ n ∈ numbers, d.find? chain n ≠ some .directory
  waiting : ∀ n ∈ ahead.waiting, n ∈ numbers

variable {numbers : List Word}

/-- Fetching a block that waits. -/
theorem Lookahead.Covers.fetch {n : Word} {waiting : List Word} {ready : List FetchedBlock}
    {s : σ × Disk}
    (h : (⟨n :: waiting, ready⟩ : Lookahead).Covers q.l2ChainId numbers s.2) :
    (⟨waiting, ready ++ [((q.fetch source n).step s).1.map fun txs => (n, txs)]⟩ :
      Lookahead).Covers q.l2ChainId numbers ((q.fetch source n).step s).2.2 := by
  have hkeeps : s.2.Keeps q.l2ChainId ((q.fetch source n).step s).2.2 := Disk.keeps_fetch _ n s
  obtain ⟨hn, hwaiting⟩ := List.forall_mem_cons.1 h.waiting
  refine ⟨fun m hm => ?_, fun m hm => hkeeps.find m (h.free m hm), hwaiting⟩
  rcases h.covers m hm with hwaits | hkept | ⟨e, he⟩
  · rcases List.mem_cons.1 hwaits with rfl | hwaits
    · right
      rcases hfetch : (q.fetch source m).step s with ⟨e | txs, s'⟩
      · exact .inr ⟨e, List.mem_append_right ready (List.mem_singleton_self _)⟩
      · exact .inl (InboxQuery.isSome_load?_fetch (h.free m hm) hfetch)
    · exact .inl hwaits
  · exact .inr (.inl (hkeeps.load m hkept))
  · exact .inr (.inr ⟨e, List.mem_append_left _ he⟩)

/-- Fetching blocks ahead leaves as many blocks to read, and one is ready if there was room. -/
theorem Lookahead.Covers.fetchSome {room : Nat} {waiting : List Word} {ready : List FetchedBlock}
    {s s' : σ × Disk} {ahead : Lookahead}
    (hcovers : (⟨waiting, ready⟩ : Lookahead).Covers q.l2ChainId numbers s.2)
    (h : (fetchSome q source ready room waiting).step s = (.ok ahead, s')) :
    ahead.Covers q.l2ChainId numbers s'.2 ∧
      ahead.waiting.length + ahead.ready.length = waiting.length + ready.length ∧
      (0 < room ∨ ready ≠ [] → ahead.ready = [] → ahead.waiting = []) := by
  induction room generalizing waiting ready s with
  | zero =>
    cases h
    exact ⟨hcovers, rfl, fun hsome hnone =>
      absurd hnone (hsome.resolve_left (Nat.lt_irrefl 0))⟩
  | succ room ih =>
    cases waiting with
    | nil =>
      cases h
      exact ⟨hcovers, rfl, fun _ _ => rfl⟩
    | cons n waiting =>
      obtain ⟨result, s₁, hattempt, h⟩ := Effect.step_bind_eq_ok.1 h
      rw [Effect.step_attempt] at hattempt
      cases hattempt
      obtain ⟨hahead, hlength, hready⟩ := ih hcovers.fetch h
      refine ⟨hahead, ?_, fun _ => hready (.inr (by simp))⟩
      simp only [hlength, List.length_append, List.length_cons, List.length_nil]
      omega

/-- **The step.**  A block is read, unless all of them are. -/
theorem Lookahead.Covers.next {ahead : Lookahead} {concurrency : Nat} {s s' : σ × Disk}
    {next? : Option (FetchedBlock × Lookahead)} (hcovers : ahead.Covers q.l2ChainId numbers s.2)
    (h : (ahead.next q source concurrency).step s = (.ok next?, s')) :
    (next? = none → ∀ n ∈ numbers, (s'.2.load? q.l2ChainId n).isSome) ∧
      ∀ block ahead', next? = some (.ok block, ahead') →
        ahead'.Covers q.l2ChainId numbers s'.2 ∧
          ahead'.waiting.length + ahead'.ready.length + 1 =
            ahead.waiting.length + ahead.ready.length := by
  obtain ⟨⟨waiting, ready⟩, s₁, hfetch, h⟩ := Effect.step_bind_eq_ok.1 h
  obtain ⟨hcovers', hlength, hready⟩ := Lookahead.Covers.fetchSome hcovers hfetch
  cases ready with
  | nil =>
    cases h
    refine ⟨fun _ n hn => ?_, nofun⟩
    have hwaiting : waiting = [] := by
      refine hready ?_ rfl
      by_cases hnone : ahead.ready = []
      · rw [hnone, List.length_nil]
        exact .inl (by omega)
      · exact .inr hnone
    rcases hcovers'.covers n hn with hwaits | hkept | ⟨e, he⟩
    · rw [hwaiting] at hwaits
      exact absurd hwaits List.not_mem_nil
    · exact hkept
    · exact absurd he List.not_mem_nil
  | cons block ready =>
    cases h
    refine ⟨nofun, fun block' ahead' heq => ?_⟩
    cases heq
    refine ⟨⟨fun n hn => ?_, hcovers'.free, hcovers'.waiting⟩, ?_⟩
    · rcases hcovers'.covers n hn with hwaits | hkept | ⟨e, he⟩
      · exact .inl hwaits
      · exact .inr (.inl hkept)
      · exact .inr (.inr ⟨e, (List.mem_cons.1 he).resolve_left nofun⟩)
    · rw [← hlength, List.length_cons, Nat.add_assoc]

/-! ## Scans -/

/-- Reading a block leaves the disk as it is. -/
theorem disk_takeBlock {number : Word} {txs : List InboxTx} {intake : Intake}
    {closed : List ClosedChannel} {r : Intake × List ClosedChannel} {s s' : Session σ}
    (h : (takeBlock u intake closed number txs).step s = (.ok r, s')) : s'.disk = s.disk := by
  -- The run is put beside itself, and the relation of its disks says that one is as it was.
  have hself : u.Alike False Eq u := u.alike_refl
  have htxs := InboxTx.forall₂_alike_refl txs
  have hclosed : List.Forall₂ (ClosedChannel.Alike Eq) closed closed :=
    List.forall₂_same.2 fun c _ => ⟨rfl, rfl⟩
  have htracks := tracks_takeBlock (D := fun d _ => d = s.disk) hself L1Position.keepsOrder_eq htxs
    intake number hclosed s s ⟨rfl, rfl, rfl⟩
  rw [h] at htracks
  exact htracks.states.disk

/-- The blocks to come are on disk when a scan has read them all. -/
theorem isSome_load?_scanFrom {concurrency rounds : Nat} {ahead : Lookahead} {intake : Intake}
    {closed : List ClosedChannel} {r : Intake × List ClosedChannel} {s s' : Session σ}
    (hcovers : ahead.Covers q.l2ChainId numbers s.disk)
    (hrounds : ahead.waiting.length + ahead.ready.length < rounds)
    (h : (scanFrom u q concurrency rounds ahead intake closed).step s = (.ok r, s')) :
    ∀ n ∈ numbers, (s'.disk.load? q.l2ChainId n).isSome := by
  induction rounds generalizing ahead intake closed s with
  | zero => exact absurd hrounds (Nat.not_lt_zero _)
  | succ rounds ih =>
    obtain ⟨next?, s₁, hnext, h⟩ := Effect.step_bind_eq_ok.1 h
    obtain ⟨s₂, hahead, rfl⟩ := Effect.step_zoom_eq_ok.1 (step_unlessCancelled hnext)
    obtain ⟨hnone, hsome⟩ := Lookahead.Covers.next (s := (s.world, s.disk)) hcovers hahead
    split at h
    · cases h
      exact hnone rfl
    · exact absurd h nofun
    · rename_i number txs ahead'
      obtain ⟨hcovers', hlength⟩ := hsome _ ahead' rfl
      obtain ⟨⟨intake₁, closed₁⟩, s₃, htake, h⟩ := Effect.step_bind_eq_ok.1 h
      have hdisk : s₃.disk = s₂.2 := disk_takeBlock htake
      refine ih ?_ (by omega) h
      rw [hdisk]
      exact hcovers'

/-- **The blocks of a scan that ends are on disk**, if nothing is in the way. -/
theorem isSome_load?_scan {c : Rollup} {concurrency : Nat} {first last : Word} {s s' : Session σ}
    {r : List ClosedChannel × List DroppedChannel}
    (hfree : ∀ n, first ≤ n → n ≤ last → s.disk.find? c.l2ChainId n ≠ some .directory)
    (h : (scan u c concurrency first last).step s = (.ok r, s')) {n : Word} (hfirst : first ≤ n)
    (hlast : n ≤ last) : (s'.disk.load? c.l2ChainId n).isSome := by
  obtain ⟨read, s₁, hscan, h⟩ := Effect.step_bind_eq_ok.1 h
  have hcovers : (⟨InboxQuery.blocksBetween first last, []⟩ : Lookahead).Covers c.l2ChainId
      (InboxQuery.blocksBetween first last) s.disk := by
    refine ⟨fun m hm => .inl hm, fun m hm => ?_, fun m hm => hm⟩
    obtain ⟨hm, hm'⟩ := InboxQuery.mem_blocksBetween.1 hm
    exact hfree m hm hm'
  have hkept := isSome_load?_scanFrom (q := ⟨c.l2ChainId, c.inbox, c.batcher⟩) hcovers
    (Nat.lt_succ_self _) hscan n (InboxQuery.mem_blocksBetween.2 ⟨hfirst, hlast⟩)
  cases h
  exact hkept

end
end BatchInbox
