import BatchInbox.Proofs.Exchanges
import BatchInbox.Proofs.Transparency

/-!
# Fetching through the disk

Blocks are fetched one after the other, for one inbox and one L2 chain, and for whichever sender.
Between them are the files: those that were there before, which may be anything that is no file of
their block, and those that the fetches have left.  Some fetches fail, because the client does, and
some leave no file, because the file system refuses it or a directory is in the way.

What is fetched does not show any of this.  That a file serves all senders is why its transactions are
filtered when it is read, and not when it is written; and that it says what L1 says is the invariant,
which a failure keeps because nothing is written before the client has answered.

## What is here

* `Disk.Entry.IsFileOf`, `Disk.Misses` — a file of a block, and a disk without one; `misses_iff`.
* `BlockCall` — a call for a block; `BlockCall.step_hit`, `BlockCall.step_miss`, `afterCalls`.
* `Disk.Mirrors.afterCalls`, `Disk.keeps_afterCalls`, `count_questions_afterCalls` — what calls keep.
* `fetches_through_disk` — what is fetched, what fails, and who is asked.
-/

set_option autoImplicit false
namespace BatchInbox

/-! ## Files of blocks -/

namespace Disk
variable {d : Disk} {chain n : Word} {txs : List InboxTx}

/-- The entry is a file with the transactions of a block, in the known version of the format. -/
def Entry.IsFileOf (n : Word) (txs : List InboxTx) (e : Entry) : Prop :=
  ∃ json, e.json? = some json ∧ readJson? json = some (schemaVersion, n, txs)

/-- There is no file of the block at its path: nothing is there, or a directory, or a file of
something else. -/
inductive Misses (d : Disk) (chain n : Word) : Prop where
  | absent (h : d.find? chain n = none)
  | directory (h : d.find? chain n = some .directory)
  | foreign {e : Entry} (h : d.find? chain n = some e) (hforeign : ∀ txs, ¬ e.IsFileOf n txs)

theorem readEnvelope?_eq_some_iff {json : Json} :
    readEnvelope? n json = some txs ↔ readJson? json = some (schemaVersion, n, txs) := by
  rw [readEnvelope?]
  rcases readJson? json with _ | ⟨version, stored, txs'⟩
  · simp
  · simp only [Option.some.injEq, Prod.mk.injEq]
    by_cases h : version = schemaVersion ∧ stored = n
    · rw [if_pos h]
      exact ⟨fun heq => ⟨h.1, h.2, Option.some.inj heq⟩, fun heq => congrArg some heq.2.2⟩
    · rw [if_neg h]
      exact iff_of_false (Option.some_ne_none txs).symm fun heq => h ⟨heq.1, heq.2.1⟩

/-- What is loaded is in a file of the block. -/
theorem load?_eq_some_iff :
    d.load? chain n = some txs ↔ ∃ e, d.find? chain n = some e ∧ e.IsFileOf n txs := by
  rw [load?, Option.bind_eq_some_iff]
  constructor
  · rintro ⟨json, hjson, hread⟩
    obtain ⟨e, he, hvalue⟩ := Option.bind_eq_some_iff.1 hjson
    exact ⟨e, he, json, hvalue, readEnvelope?_eq_some_iff.1 hread⟩
  · rintro ⟨e, he, json, hvalue, hread⟩
    exact ⟨json, Option.bind_eq_some_iff.2 ⟨e, he, hvalue⟩, readEnvelope?_eq_some_iff.2 hread⟩

/-- Nothing is loaded where there is no file of the block. -/
theorem misses_iff : d.Misses chain n ↔ d.load? chain n = none := by
  rw [Option.eq_none_iff_forall_ne_some]
  constructor
  · rintro hmisses txs hload
    obtain ⟨e, he, hfile⟩ := load?_eq_some_iff.1 hload
    cases hmisses with
    | absent h => exact absurd (h.symm.trans he) nofun
    | directory h =>
      cases h.symm.trans he
      obtain ⟨json, hjson, -⟩ := hfile
      exact absurd hjson nofun
    | foreign h hforeign =>
      cases h.symm.trans he
      exact hforeign txs hfile
  · intro hload
    cases hfind : d.find? chain n with
    | none => exact .absent hfind
    | some e =>
      exact .foreign hfind fun txs hfile => hload txs (load?_eq_some_iff.2 ⟨e, hfind, hfile⟩)

end Disk

/-! ## Calls -/

/-- A call for the transactions of a block. -/
structure BlockCall where
  sender : Address
  number : Word
  /-- The file system takes a file. -/
  canWrite : Bool

section
variable {σ : Type} {source : L1Source σ} {chain : Word} {inbox : Address} {call : BlockCall}
  {blocks : Word → L1Block}

/-- What a call asks for, of an L2 chain and an inbox. -/
def BlockCall.query (chain : Word) (inbox : Address) (call : BlockCall) : InboxQuery :=
  ⟨chain, inbox, call.sender⟩

/-- Fetches the block, as the query of the call does.  Where the file system takes no file, the disk
stays as it is. -/
def BlockCall.fetch (chain : Word) (inbox : Address) (source : L1Source σ) (call : BlockCall) :
    Effect (σ × Disk) RpcError (List InboxTx) :=
  .ofStep fun s =>
    let (result, world, disk) := ((call.query chain inbox).fetch source call.number).step s
    (result, world, if call.canWrite then disk else s.2)

/-- A file that the call writes for its block arrives on disk. -/
def BlockCall.Writes (chain : Word) (call : BlockCall) (d : Disk) : Prop :=
  call.canWrite = true ∧ d.find? chain call.number ≠ some .directory

/-- What is left by calls, one after the other. -/
def afterCalls (chain : Word) (inbox : Address) (source : L1Source σ) (s : σ × Disk)
    (calls : List BlockCall) : σ × Disk :=
  calls.foldl (fun s call => ((call.fetch chain inbox source).step s).2) s

theorem BlockCall.step_fetch (s : σ × Disk) :
    (call.fetch chain inbox source).step s =
      ((((call.query chain inbox).fetch source call.number).step s).1,
        (((call.query chain inbox).fetch source call.number).step s).2.1,
        if call.canWrite then (((call.query chain inbox).fetch source call.number).step s).2.2
        else s.2) := rfl

/-- A block that is on disk is fetched without asking for it. -/
theorem BlockCall.step_hit {s : σ × Disk} {stored : List InboxTx}
    (h : s.2.load? chain call.number = some stored) :
    (call.fetch chain inbox source).step s = (.ok (stored.filter (·.sender = call.sender)), s) := by
  obtain ⟨w, d⟩ := s
  rw [step_fetch, InboxQuery.fetch_step_hit (q := call.query chain inbox) h, ite_self]
  rfl

/-- A block that is not on disk is asked for. -/
theorem BlockCall.step_miss {s : σ × Disk} (h : s.2.load? chain call.number = none) :
    (call.fetch chain inbox source).step s =
      match (source.block call.number).step s.1 with
      | (.ok b, w) => (.ok ((b.inboxTxs inbox).filter (·.sender = call.sender)), w,
          if call.canWrite then
            (s.2.store? chain call.number (b.inboxTxs inbox)).getD s.2
          else s.2)
      | (.error e, w) => (.error e, w, s.2) := by
  obtain ⟨w, d⟩ := s
  rw [step_fetch, InboxQuery.fetch_step (q := call.query chain inbox) h]
  rcases (source.block call.number).step w with ⟨e | b, w'⟩
  · simp only [ite_self]
  · rfl

/-! ## What calls keep -/

/-- Whatever a call leaves on disk was there, or is left by fetching. -/
theorem BlockCall.disk_fetch {I : Disk → Prop} {s : σ × Disk} (h : I s.2)
    (hfetch : I (((call.query chain inbox).fetch source call.number).step s).2.2) :
    I ((call.fetch chain inbox source).step s).2.2 := by
  rw [step_fetch]
  show I (if _ then _ else _)
  split
  · exact hfetch
  · exact h

/-- What every call keeps of the disk is kept by all of them. -/
theorem disk_afterCalls {I : Disk → Prop}
    (hI : ∀ (call : BlockCall) (s : σ × Disk), I s.2 →
      I ((call.fetch chain inbox source).step s).2.2)
    (calls : List BlockCall) {s : σ × Disk} (h : I s.2) :
    I (afterCalls chain inbox source s calls).2 := by
  induction calls generalizing s with
  | nil => exact h
  | cons call calls ih => exact ih (hI call s h)

/-- **The files say what L1 says**, if they did before. -/
theorem Disk.Mirrors.afterCalls (ht : source.Tells blocks) {s : σ × Disk}
    (h : s.2.Mirrors blocks (fun _ => True) chain inbox) (calls : List BlockCall) :
    (BatchInbox.afterCalls chain inbox source s calls).2.Mirrors blocks (fun _ => True) chain
      inbox := by
  refine disk_afterCalls (fun call s hs => call.disk_fetch hs ?_) calls h
  exact (hs.fetch (q := call.query chain inbox) ht (fun _ _ _ _ _ => trivial) (fun _ => rfl)
    call.number s.1).1

/-- **What is readable stays so**, and no directories come in the way. -/
theorem Disk.keeps_afterCalls (s : σ × Disk) (calls : List BlockCall) :
    s.2.Keeps chain (afterCalls chain inbox source s calls).2 := by
  refine disk_afterCalls (fun call t ht => call.disk_fetch ht ?_) calls (.refl chain s.2)
  exact ht.trans (Disk.keeps_fetch (q := call.query chain inbox) chain call.number t)

/-! ## Outcomes -/

/-- What a call gives is what L1 says, if the files do. -/
theorem BlockCall.eq_of_ok (ht : source.Tells blocks) {s : σ × Disk} {txs : List InboxTx}
    (hmirrors : s.2.Mirrors blocks (fun _ => True) chain inbox)
    (h : ((call.fetch chain inbox source).step s).1 = .ok txs) :
    txs = ((blocks call.number).inboxTxs inbox).filter (·.sender = call.sender) :=
  ((hmirrors.fetch (q := call.query chain inbox) ht (fun _ _ _ _ _ => trivial) (fun _ => rfl)
    call.number s.1).2 rfl txs h).2

/-- A call fails if there is no file of the block and the client fails, and changes no file. -/
theorem BlockCall.misses_of_error {s : σ × Disk} {e : RpcError}
    (h : ((call.fetch chain inbox source).step s).1 = .error e) :
    s.2.Misses chain call.number ∧ ((source.block call.number).step s.1).1 = .error e ∧
      ((call.fetch chain inbox source).step s).2.2 = s.2 := by
  cases hload : s.2.load? chain call.number with
  | some stored =>
    rw [step_hit hload] at h
    exact absurd h nofun
  | none =>
    refine ⟨Disk.misses_iff.2 hload, ?_⟩
    rw [step_miss hload] at h ⊢
    rcases hblock : (source.block call.number).step s.1 with ⟨e' | b, w⟩ <;> rw [hblock] at h
    · exact ⟨congrArg Except.error (Except.error.inj h), rfl⟩
    · exact absurd h nofun

/-- A file that is written is there for all later calls. -/
theorem BlockCall.isSome_load? {s : σ × Disk} {txs : List InboxTx}
    (h : ((call.fetch chain inbox source).step s).1 = .ok txs)
    (hkept : ¬ s.2.Misses chain call.number ∨ call.Writes chain s.2) :
    (((call.fetch chain inbox source).step s).2.2.load? chain call.number).isSome := by
  cases hload : s.2.load? chain call.number with
  | some stored =>
    rw [step_hit hload, hload]
    rfl
  | none =>
    obtain ⟨hwrite, hfree⟩ := hkept.resolve_left fun hnot => hnot (Disk.misses_iff.2 hload)
    rw [step_miss hload] at h ⊢
    rcases hblock : (source.block call.number).step s.1 with ⟨e | b, w⟩ <;> rw [hblock] at h
    · exact absurd h nofun
    · simp only [if_pos hwrite, Disk.load?_getD_store?_self hfree]
      rfl

end

/-! ## Questions -/

section
variable {σ : Type} {u : Endpoints σ} {chain : Word} {inbox : Address} {call : BlockCall}
  {blocks : Word → L1Block}

/-- A client gives the blocks that it gives when it is not written down. -/
theorem L1Source.Tells.recorded (ht : u.l1.Tells blocks) : u.recorded.l1.Tells blocks := by
  intro n s b s' hblock
  have hanswer : ((u.l1.block n).step s.world).1 = .ok b := congrArg Prod.fst hblock
  exact ht n s.world b _ (Prod.ext hanswer rfl)

/-- A call asks for its block if there is no file of it, and asks nothing otherwise. -/
theorem BlockCall.questions_fetch (s : Recorded σ × Disk) :
    ((call.fetch chain inbox u.recorded.l1).step s).2.1.questions = s.1.questions ++
      if (s.2.load? chain call.number).isNone then [.block call.number] else [] := by
  cases hload : s.2.load? chain call.number with
  | some stored =>
    rw [step_hit hload]
    exact (List.append_nil _).symm
  | none =>
    have hblock : (u.recorded.l1.block call.number).step s.1 = _ :=
      Effect.step_recorded (.block call.number) (u.l1.block call.number) s.1
    rw [step_miss hload, hblock]
    rcases (u.l1.block call.number).step s.1.world with ⟨e | b, w⟩ <;>
      exact List.map_append

/-- A block that is on disk is not asked for by later calls. -/
theorem count_questions_afterCalls {n : Word} {s : Recorded σ × Disk}
    (h : (s.2.load? chain n).isSome) (calls : List BlockCall) :
    (afterCalls chain inbox u.recorded.l1 s calls).1.questions.count (.block n) =
      s.1.questions.count (.block n) := by
  induction calls generalizing s with
  | nil => rfl
  | cons call calls ih =>
    have hkept : (((call.fetch chain inbox u.recorded.l1).step s).2.2.load? chain n).isSome :=
      (Disk.keeps_afterCalls s [call]).load n h
    refine (ih hkept).trans ?_
    rw [call.questions_fetch, List.count_append]
    split
    · rename_i hnone
      have hother : Question.block call.number ≠ .block n := by
        rintro heq
        cases heq
        rw [Option.isNone_iff_eq_none.1 hnone] at h
        exact absurd h nofun
      rw [List.count_singleton, beq_false_of_ne hother]
      rfl
    · rfl

/-- Writing down what is asked does not change a call. -/
theorem BlockCall.step_recorded (s : Recorded σ × Disk) :
    (call.fetch chain inbox u.l1).step (s.1.world, s.2) =
      (((call.fetch chain inbox u.recorded.l1).step s).1,
        ((call.fetch chain inbox u.recorded.l1).step s).2.1.world,
        ((call.fetch chain inbox u.recorded.l1).step s).2.2) := by
  cases hload : s.2.load? chain call.number with
  | some stored => rw [step_hit hload, step_hit (s := (s.1.world, s.2)) hload]
  | none =>
    have hblock : (u.recorded.l1.block call.number).step s.1 = _ :=
      Effect.step_recorded (.block call.number) (u.l1.block call.number) s.1
    rw [step_miss hload, step_miss (s := (s.1.world, s.2)) hload, hblock]
    rcases (u.l1.block call.number).step s.1.world with ⟨e | b, w⟩ <;> rfl

theorem afterCalls_recorded (s : Recorded σ × Disk) (calls : List BlockCall) :
    afterCalls chain inbox u.l1 (s.1.world, s.2) calls =
      ((afterCalls chain inbox u.recorded.l1 s calls).1.world,
        (afterCalls chain inbox u.recorded.l1 s calls).2) :=
  List.foldl_hom (fun s : Recorded σ × Disk => (s.1.world, s.2)) fun s call =>
    congrArg Prod.snd (call.step_recorded s)

/-- **Fetching through the disk is fetching directly.**  The client may fail whenever it likes, but
what it gives are the blocks of L1; on disk nothing is a file of its block in the beginning.  After
any calls, for any blocks and senders:

* what a call gives are the transactions of the block to the inbox from its sender;
* it fails only if there is no file of the block and the client fails, and then the disk stays as it
  is;
* it asks the client, for this block and once, exactly if there is no file of the block;
* if it gives something, and a file is there now, then no later call asks for the block.

Writing down what is asked changes nothing. -/
theorem fetches_through_disk (ht : u.l1.Tells blocks) (chain : Word) (inbox : Address) {d : Disk}
    (hd : ∀ n, d.Misses chain n) (w : σ) (earlier : List BlockCall) (call : BlockCall) :
    let s := afterCalls chain inbox u.recorded.l1 (⟨w, []⟩, d) earlier
    let r := (call.fetch chain inbox u.recorded.l1).step s
    (call.fetch chain inbox u.l1).step (afterCalls chain inbox u.l1 (w, d) earlier) =
        (r.1, r.2.1.world, r.2.2) ∧
      (∀ txs, r.1 = .ok txs →
        txs = ((blocks call.number).inboxTxs inbox).filter (·.sender = call.sender)) ∧
      (∀ e, r.1 = .error e → s.2.Misses chain call.number ∧
        ((u.l1.block call.number).step s.1.world).1 = .error e ∧ r.2.2 = s.2) ∧
      (s.2.Misses chain call.number →
        r.2.1.questions = s.1.questions ++ [.block call.number]) ∧
      (¬ s.2.Misses chain call.number → r.2.1.questions = s.1.questions) ∧
      (∀ txs, r.1 = .ok txs → ¬ s.2.Misses chain call.number ∨ call.Writes chain s.2 → ∀ later,
        (afterCalls chain inbox u.recorded.l1 r.2 later).1.questions.count (.block call.number) =
          r.2.1.questions.count (.block call.number)) := by
  intro s r
  have hmirrors : s.2.Mirrors blocks (fun _ => True) chain inbox :=
    Disk.Mirrors.afterCalls ht.recorded (s := (⟨w, []⟩, d))
      (fun n txs hload => absurd ((Disk.misses_iff.1 (hd n)).symm.trans hload) nofun) earlier
  have hquestions : r.2.1.questions = _ := call.questions_fetch s
  refine ⟨?_, fun txs hok => call.eq_of_ok ht.recorded hmirrors hok,
    fun e herror => call.misses_of_error herror, fun hmisses => ?_, fun hhit => ?_,
    fun txs hok hkept later => count_questions_afterCalls (call.isSome_load? hok hkept) later⟩
  · have hearlier : afterCalls chain inbox u.l1 (w, d) earlier = (s.1.world, s.2) :=
      afterCalls_recorded (⟨w, []⟩, d) earlier
    rw [hearlier]
    exact call.step_recorded s
  · rw [hquestions, Disk.misses_iff.1 hmisses]
    rfl
  · cases hload : s.2.load? chain call.number with
    | none => exact absurd (Disk.misses_iff.2 hload) hhit
    | some stored =>
      rw [hquestions, hload]
      exact List.append_nil _

end

/-! ### An example

A client that does not answer the first time, a file of another block in the place of the one that is
fetched, and a file system that is full at first. -/

/-- The nodes of the three blocks, of which the client does not answer the first time.  The world says
whether it was asked already. -/
def lateNodes : Endpoints Bool where
  l1 := {
    finalized := return threeBlocksL1.header threeBlocksL1.head
    header := fun n => return threeBlocksL1.header n
    block := fun n => .ofStep fun asked =>
      (if asked then .ok (threeBlocksL1.block n) else .error (.status 503 "unavailable"), true) }
  beacon := { timing := return noBlobs.timing, sidecars := fun slot => return noBlobs.sidecars slot }
  isCancelled _ := false

theorem lateNodes_tells : lateNodes.l1.Tells threeBlocksL1.block := by
  rintro n (_ | _) b w' h
  · cases h
  · cases h
    rfl

/-- A file of another block, and a directory. -/
def foreignDisk : Disk := ⟨[((901, 2), .file (Disk.content 5 [])), ((901, 3), .directory)]⟩

theorem foreignDisk_misses (n : Word) : foreignDisk.Misses 901 n := by
  by_cases hfile : n = 2
  · subst hfile
    exact Disk.misses_iff.2 (by decide +kernel)
  by_cases hdirectory : n = 3
  · subst hdirectory
    exact .directory (by decide +kernel)
  refine .absent ?_
  rw [foreignDisk, Disk.find?, List.lookup_cons, List.lookup_cons,
    beq_false_of_ne fun heq => hfile (congrArg Prod.snd heq),
    beq_false_of_ne fun heq => hdirectory (congrArg Prod.snd heq)]
  rfl

/-- The first call fails, the second one leaves no file, and the third one is the last to ask. -/
theorem fetches_through_disk_lateNodes :
    let inbox := BytesN.zero 20
    let earlier : List BlockCall := [⟨inbox, 2, true⟩, ⟨inbox, 2, false⟩]
    let s := afterCalls 901 inbox lateNodes.recorded.l1 (⟨false, []⟩, foreignDisk) earlier
    let r := ((⟨inbox, 2, true⟩ : BlockCall).fetch 901 inbox lateNodes.recorded.l1).step s
    r.1 = .ok (((threeBlocksL1.block 2).inboxTxs inbox).filter (·.sender = inbox)) ∧
      r.2.1.questions = [.block 2, .block 2, .block 2] ∧
      ∀ later, (afterCalls 901 inbox lateNodes.recorded.l1 r.2 later).1.questions.count
        (.block 2) = 3 := by
  intro inbox earlier s r
  have hisOk : r.1.isOk = true := by decide +kernel
  have hok : ∃ txs, r.1 = .ok txs := by
    cases hresult : r.1 with
    | ok txs => exact ⟨txs, rfl⟩
    | error e => exact absurd ((congrArg Except.isOk hresult).symm.trans hisOk) nofun
  have hasked : s.1.questions = [.block 2, .block 2] := by decide +kernel
  obtain ⟨txs, htxs⟩ := hok
  obtain ⟨-, hdirect, -, hasks, -, hlater⟩ := fetches_through_disk lateNodes_tells 901 inbox
    foreignDisk_misses false earlier ⟨inbox, 2, true⟩
  have hquestions : r.2.1.questions = [.block 2, .block 2, .block 2] := by
    rw [hasks (Disk.misses_iff.2 (by decide +kernel)), hasked]
    rfl
  refine ⟨hdirect txs htxs ▸ htxs, hquestions, fun later => ?_⟩
  rw [hlater txs htxs (.inr ⟨rfl, by decide +kernel⟩) later, hquestions]
  rfl

end BatchInbox
