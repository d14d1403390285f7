import BatchInbox.Intake
import BatchInbox.Proofs.ChannelTable

/-!
# Pushing the frames of a channel

Transactions are pushed one by one, each with frames of any channels.  For a single channel, the
frames of a transaction take it from one stage to another, and it comes out of the push with which
nothing of it is missing any more.

The intake refuses a transaction of a block that it has left behind, or with the wrong number of
blobs.  So the stages are followed on the condition that transactions with frames of the channel are
not refused; those without may be anything.

## What is here

* `Intake.own` — the frames of a channel among others; `Frame.ownIn` — those in a payload.
* `Intake.takeFrames_stage`, `Intake.push_stage` — the steps.
* `Intake.Post`, `Intake.pushAll` — a run; `Intake.completions` — what it gives of a channel.
* `Intake.pushAll_stage` — every run in which the frames come in time.
* `Intake.closesWith_of_perm` — a channel all of whose frames come in time closes, once.
-/

set_option autoImplicit false
namespace BatchInbox

/-- The frames of a channel among others. -/
def Intake.own (id : ChannelId) (frames : List Frame) : List Frame :=
  frames.filter (·.channel = id)

/-- The frames of a channel in a payload; a malformed one has none. -/
def Frame.ownIn (id : ChannelId) (payload : Bytes) : List Frame :=
  Intake.own id ((Frame.decodeAll payload).toOption.getD [])

namespace Intake

/-- The closed channels of an id that a push gives; a refused one gives none. -/
def closedOf (id : ChannelId) : Except Error (List ClosedChannel) → List ClosedChannel
  | .error _ => []
  | .ok closed => closed.filter (·.id = id)

/-- The channel with all its frames, when a transaction has brought the last missing one. -/
def whole (id : ChannelId) (first : Word) (all : List Frame) (closedAt : L1Position) :
    ClosedChannel :=
  ⟨id, first, closedAt, all.length, all.flatMap (·.data)⟩

variable {id : ChannelId} {first : Word} {all seen rest : List Frame}

theorem own_cons_self {f : Frame} (h : f.channel = id) (frames : List Frame) :
    own id (f :: frames) = f :: own id frames :=
  List.filter_cons_of_pos (by simpa using h)

theorem own_cons_of_ne {f : Frame} (h : f.channel ≠ id) (frames : List Frame) :
    own id (f :: frames) = own id frames :=
  List.filter_cons_of_neg (by simpa using h)

theorem own_eq_nil_iff {frames : List Frame} :
    own id frames = [] ↔ ∀ f ∈ frames, f.channel ≠ id := by
  simp [own, List.filter_eq_nil_iff]

/-! ## The frames of a transaction -/

theorem takeFrames_cons (source : L1Position) (closed : List ClosedChannel) (t : ChannelTable)
    (f : Frame) (frames : List Frame) :
    takeFrames source closed t (f :: frames) =
      takeFrames source (closed ++ (t.add f source).1.toOption.join.toList) (t.add f source).2
        frames := by
  rw [takeFrames]
  rcases hadd : t.add f source with ⟨e | (_ | done), t'⟩ <;>
    simp [Except.toOption]

/-- A frame closes no other channel than its own. -/
theorem filter_add_of_ne {t : ChannelTable} {f : Frame} (hf : f.channel ≠ id)
    (source : L1Position) :
    (t.add f source).1.toOption.join.toList.filter (·.id = id) = [] := by
  obtain ⟨-, -, hother⟩ := ChannelTable.add_of_ne (t := t) hf source
  refine List.filter_eq_nil_iff.2 fun done hdone => ?_
  rw [decide_eq_true_eq]
  refine hother done ?_
  cases hresult : (t.add f source).1 with
  | error e => simp [hresult, Except.toOption] at hdone
  | ok done? => simpa [hresult, Except.toOption] using hdone

/-- **The frames of a transaction** take a channel from one stage to another, and close it if they
are the last missing ones. -/
theorem takeFrames_stage (hall : Frame.IsWhole id all) (source : L1Position) {t : ChannelTable}
    {frames : List Frame} (closed : List ClosedChannel)
    (h : t.Stage id first seen (own id frames ++ rest))
    (hperm : (seen ++ (own id frames ++ rest)).Perm all)
    (hfirst : seen = [] → own id frames ≠ [] → source.block = first) :
    (takeFrames source closed t frames).1.filter (·.id = id) =
        closed.filter (·.id = id) ++
          (if own id frames ≠ [] ∧ rest = [] then [whole id first all source] else []) ∧
      (takeFrames source closed t frames).2.Stage id first (seen ++ own id frames) rest ∧
      (takeFrames source closed t frames).2.timeout = t.timeout := by
  induction frames generalizing closed t seen with
  | nil =>
    refine ⟨?_, ?_, rfl⟩
    · rw [if_neg fun h => h.1 rfl, List.append_nil, takeFrames]
    · exact (List.append_nil seen).symm ▸ h
  | cons f frames ih =>
    rw [takeFrames_cons]
    by_cases hf : f.channel = id
    · rw [own_cons_self hf, List.cons_append] at h hperm
      rw [own_cons_self hf] at hfirst ⊢
      obtain ⟨hresult, hstage, htimeout⟩ := h.add hall hperm fun hseen => hfirst hseen nofun
      have hperm' : (seen ++ [f] ++ (own id frames ++ rest)).Perm all := by simpa using hperm
      obtain ⟨hclosed, hstage', htimeout'⟩ :=
        ih (closed ++ (t.add f source).1.toOption.join.toList) hstage hperm'
          (fun hseen => absurd hseen (by simp))
      rw [List.append_assoc, List.singleton_append] at hstage'
      refine ⟨?_, hstage', htimeout'.trans htimeout⟩
      rw [hclosed, List.filter_append, hresult, List.append_assoc]
      congr 1
      -- the channel closes with this frame, or with a later one, or not here
      by_cases hrest : rest = []
      · by_cases hown : own id frames = [] <;> simp [hrest, hown, Except.toOption, whole]
      · simp [hrest, Except.toOption]
    · rw [own_cons_of_ne hf] at h hperm hfirst ⊢
      obtain ⟨hfind, htimeout, -⟩ := ChannelTable.add_of_ne (t := t) hf source
      obtain ⟨hclosed, hstage, htimeout'⟩ :=
        ih (closed ++ (t.add f source).1.toOption.join.toList) (h.congr hfind) hperm hfirst
      refine ⟨?_, hstage, htimeout'.trans htimeout⟩
      rw [hclosed, List.filter_append, filter_add_of_ne hf, List.append_nil]

/-! ## One transaction -/

/-- **Going on to a block** is refused, has nothing to do, or reaches the block. -/
theorem advance_cases (s : Intake) (block : Word) :
    (∃ e current, s.block? = some current ∧ block < current ∧ s.advance block = (.error e, s)) ∨
    (s.block? = some block ∧ s.advance block = (.ok (), s)) ∨
    (∀ current, s.block? = some current → current < block) ∧
      s.advance block = (.ok (), s.moveTo block) := by
  rw [advance]
  cases hcurrent : s.block? with
  | none => exact .inr (.inr ⟨nofun, rfl⟩)
  | some current =>
    simp only
    by_cases hlt : block < current
    · exact .inl ⟨_, current, rfl, hlt, if_pos hlt⟩
    · rw [if_neg hlt]
      by_cases heq : block = current
      · exact .inr (.inl ⟨congrArg some heq.symm, if_pos heq⟩)
      · refine .inr (.inr ⟨fun current' h => ?_, if_neg heq⟩)
        cases h
        exact UInt64.lt_of_le_of_ne (UInt64.not_lt.1 hlt) (Ne.symm heq)

theorem block?_of_advance {s s' : Intake} {block : Word} (h : s.advance block = (.ok (), s')) :
    s'.block? = some block := by
  rcases s.advance_cases block with ⟨e, _, -, -, hadvance⟩ | ⟨hreached, hadvance⟩ | ⟨-, hadvance⟩ <;>
    cases h.symm.trans hadvance
  · exact hreached
  · rfl

/-- Only a block that lies behind is refused, and then nothing changes. -/
theorem lt_of_advance {s s' : Intake} {block : Word} {e : Error}
    (h : s.advance block = (.error e, s')) :
    s' = s ∧ ∃ current, s.block? = some current ∧ block < current := by
  rcases s.advance_cases block with ⟨e, current, hcurrent, hlt, hadvance⟩ | ⟨-, hadvance⟩ |
      ⟨-, hadvance⟩ <;> cases h.symm.trans hadvance
  exact ⟨rfl, current, hcurrent, hlt⟩

/-- Going on to a block keeps a channel at its stage, unless frames are still to come when it is too
late for them. -/
theorem advance_stage {s : Intake} (h : s.table.Stage id first seen rest) {block : Word}
    (hintime : seen ≠ [] → rest ≠ [] → block ≤ Word.addSat first s.table.timeout) :
    (s.advance block).2.table.Stage id first seen rest ∧
      (s.advance block).2.table.timeout = s.table.timeout := by
  rcases s.advance_cases block with ⟨e, _, -, -, hadvance⟩ | ⟨-, hadvance⟩ | ⟨-, hadvance⟩ <;>
    rw [hadvance]
  · exact ⟨h, rfl⟩
  · exact ⟨h, rfl⟩
  · exact ⟨h.expire hintime, rfl⟩

/-- Ids come in one order or the other. -/
theorem isLE_id_total (a b : ClosedChannel) :
    (compare a.id b.id).isLE || (compare b.id a.id).isLE := by
  cases hcompare : compare a.id b.id with
  | lt | eq => rfl
  | gt => rw [BytesN.lt_of_gt hcompare]; rfl

/-- Sorting by id leaves the channels of one id as they are. -/
theorem filter_id_sortById (closed : List ClosedChannel) :
    (sortById closed).filter (·.id = id) = closed.filter (·.id = id) := by
  have hsorted : (closed.filter (·.id = id)).Pairwise fun a b => (compare a.id b.id).isLE := by
    refine List.pairwise_of_forall_mem_list fun a ha b hb => ?_
    rw [of_decide_eq_true (List.mem_filter.1 ha).2, of_decide_eq_true (List.mem_filter.1 hb).2,
      BytesN.compare_self]
    rfl
  have hsublist : (closed.filter (·.id = id)).Sublist (sortById closed) :=
    List.sublist_mergeSort (fun a b c => Std.TransCmp.isLE_trans) isLE_id_total hsorted
      List.filter_sublist
  have hkept := hsublist.filter (·.id = id)
  rw [List.filter_filter] at hkept
  simp only [Bool.and_self] at hkept
  exact (hkept.eq_of_length ((List.mergeSort_perm closed _).filter _).length_eq.symm).symm

/-- A push reaches the block of its transaction, if it goes anywhere. -/
theorem block?_push (s : Intake) (tx : InboxTx) (blobs : List Blob) {current : Word}
    (h : (s.push tx blobs).2.block? = some current) :
    current = tx.block ∨ s.block? = some current := by
  rw [push] at h
  rcases hadvance : s.advance tx.block with ⟨e | ⟨⟩, s'⟩ <;> rw [hadvance] at h
  · rw [← (lt_of_advance hadvance).1]
    exact .inr h
  · have hblock := block?_of_advance hadvance
    simp only at h
    split at h <;> exact .inl (Option.some.inj (h.symm.trans hblock))

/-- A transaction that is taken is of the block that has been reached. -/
theorem block?_of_push {s s' : Intake} {tx : InboxTx} {blobs : List Blob}
    {done : List ClosedChannel} (h : s.push tx blobs = (.ok done, s')) :
    s'.block? = some tx.block := by
  rw [push] at h
  rcases hadvance : s.advance tx.block with ⟨e | ⟨⟩, s₁⟩ <;> rw [hadvance] at h
  · exact absurd h nofun
  · simp only at h
    split at h <;> cases h
    show s₁.block? = some tx.block
    exact block?_of_advance hadvance

/-- **The step.**  A push takes a channel from one stage to another, and gives the channel if it
brings the last missing frame. -/
theorem push_stage (hall : Frame.IsWhole id all) {s : Intake} {tx : InboxTx} {blobs : List Blob}
    {frames : List Frame} (hframes : own id (tx.frames blobs) = frames)
    (h : s.table.Stage id first seen (frames ++ rest))
    (hperm : (seen ++ (frames ++ rest)).Perm all)
    (hfirst : seen = [] → frames ≠ [] → tx.block = first)
    (hintime : seen ≠ [] → frames ++ rest ≠ [] → tx.block ≤ Word.addSat first s.table.timeout)
    (horder : frames ≠ [] → ∀ current, s.block? = some current → current ≤ tx.block)
    (hcount : frames ≠ [] → tx.payloadSource = .blobs → blobs.length = tx.blobHashes.length) :
    closedOf id (s.push tx blobs).1 =
        (if frames ≠ [] ∧ rest = [] then [whole id first all tx.position] else []) ∧
      (s.push tx blobs).2.table.Stage id first (seen ++ frames) rest ∧
      (s.push tx blobs).2.table.timeout = s.table.timeout := by
  subst hframes
  -- a refused transaction brings nothing, and changes at most the block that has been reached
  have hrefused : ∀ (e : Error) (s' : Intake), own id (tx.frames blobs) = [] →
      s'.table.Stage id first seen (own id (tx.frames blobs) ++ rest) →
      closedOf id (.error e) = (if own id (tx.frames blobs) ≠ [] ∧ rest = [] then
          [whole id first all tx.position] else []) ∧
        s'.table.Stage id first (seen ++ own id (tx.frames blobs)) rest := by
    intro e s' hown hstage
    rw [hown, List.nil_append] at hstage
    rw [hown, List.append_nil, if_neg fun h => h.1 rfl]
    exact ⟨rfl, hstage⟩
  obtain ⟨hstage, htimeout⟩ := advance_stage h hintime
  rw [push]
  rcases hadvance : s.advance tx.block with ⟨e | ⟨⟩, s'⟩ <;> rw [hadvance] at hstage htimeout
  · obtain ⟨-, current, hcurrent, hlt⟩ := lt_of_advance hadvance
    have hown : own id (tx.frames blobs) = [] := Decidable.not_not.1 fun hne =>
      UInt64.not_lt.2 (horder hne current hcurrent) hlt
    obtain ⟨hclosed, hstage⟩ := hrefused e s' hown hstage
    exact ⟨hclosed, hstage, htimeout⟩
  · simp only
    split
    · rename_i hmismatch
      have hown : own id (tx.frames blobs) = [] := Decidable.not_not.1 fun hne =>
        hmismatch.2 (hcount hne hmismatch.1)
      obtain ⟨hclosed, hstage⟩ := hrefused _ s' hown hstage
      exact ⟨hclosed, hstage, htimeout⟩
    · obtain ⟨hclosed, hstage, htimeout'⟩ :=
        takeFrames_stage hall tx.position [] hstage hperm hfirst
      refine ⟨?_, hstage, htimeout'.trans htimeout⟩
      rw [List.filter_nil, List.nil_append] at hclosed
      rw [closedOf, filter_id_sortById, hclosed]

/-! ## Many transactions -/

/-- A transaction as it is pushed. -/
structure Post where
  tx : InboxTx
  blobs : List Blob

/-- The frames of a channel that a transaction brings. -/
def Post.own (id : ChannelId) (p : Post) : List Frame :=
  Intake.own id (p.tx.frames p.blobs)

/-- The transaction is pushed with as many blobs as it names, if its payloads are there. -/
def Post.HasBlobs (p : Post) : Prop :=
  p.tx.payloadSource = .blobs → p.blobs.length = p.tx.blobHashes.length

/-- Pushes transactions one after the other: what each push gives, and the state behind the
last. -/
def pushAll (s : Intake) : List Post → List (Except Error (List ClosedChannel)) × Intake
  | [] => ([], s)
  | p :: posts =>
    let (result, s) := s.push p.tx p.blobs
    let (results, s) := pushAll s posts
    (result :: results, s)

/-- What each push gives of a channel of which `rest` is still missing behind the last.  It comes
out, once, where nothing is missing any more. -/
def completions (id : ChannelId) (first : Word) (all rest : List Frame) :
    List Post → List (List ClosedChannel)
  | [] => []
  | p :: posts =>
    (if p.own id ≠ [] ∧ posts.flatMap (Post.own id) ++ rest = [] then
      [whole id first all p.tx.position] else []) :: completions id first all rest posts

/-- As long as frames are to come, it is not too late: either they come now, or a later transaction
brings them in time. -/
theorem le_of_toCome {α : Type} {frames : α → List Frame} {block : α → Word} {a : α} {as : List α}
    {bound : Word} (ha : frames a ≠ [] ∨ rest ≠ [] → block a ≤ bound)
    (hlater : ∀ b ∈ as, frames b ≠ [] → block a ≤ block b)
    (has : ∀ b ∈ as, frames b ≠ [] ∨ rest ≠ [] → block b ≤ bound)
    (hne : frames a ++ (as.flatMap frames ++ rest) ≠ []) : block a ≤ bound := by
  by_cases hnow : frames a ≠ [] ∨ rest ≠ []
  · exact ha hnow
  · obtain ⟨hnone, hrest⟩ := not_or.1 hnow
    rw [Decidable.not_not.1 hnone, Decidable.not_not.1 hrest, List.append_nil, List.nil_append, Ne,
      List.flatMap_eq_nil_iff] at hne
    simp only [Classical.not_forall] at hne
    obtain ⟨b, hb, hbrings⟩ := hne
    exact UInt64.le_trans (hlater b hb hbrings) (has b hb (.inl hbrings))

/-- **Every run.**  Transactions that bring frames of a channel in time, in any order, take it from
one stage to another, and the push with the last missing frame gives the channel. -/
theorem pushAll_stage (hall : Frame.IsWhole id all) {s : Intake} {posts : List Post}
    (h : s.table.Stage id first seen (posts.flatMap (Post.own id) ++ rest))
    (hperm : (seen ++ (posts.flatMap (Post.own id) ++ rest)).Perm all)
    (hfirst : seen = [] → ∀ p, posts.find? (·.own id ≠ []) = some p → p.tx.block = first)
    (hintime : ∀ p ∈ posts, p.own id ≠ [] ∨ rest ≠ [] →
      p.tx.block ≤ Word.addSat first s.table.timeout)
    (horder : posts.Pairwise fun p q => q.own id ≠ [] → p.tx.block ≤ q.tx.block)
    (hcursor : ∀ p ∈ posts, p.own id ≠ [] →
      ∀ current, s.block? = some current → current ≤ p.tx.block)
    (hcount : ∀ p ∈ posts, p.own id ≠ [] → p.HasBlobs) :
    (s.pushAll posts).1.map (closedOf id) = completions id first all rest posts ∧
      (s.pushAll posts).2.table.Stage id first (seen ++ posts.flatMap (Post.own id)) rest ∧
      (s.pushAll posts).2.table.timeout = s.table.timeout := by
  induction posts generalizing s seen with
  | nil =>
    refine ⟨rfl, ?_, rfl⟩
    rw [List.flatMap_nil, List.append_nil]
    exact h
  | cons p posts ih =>
    rw [List.flatMap_cons, List.append_assoc] at h hperm
    rw [List.forall_mem_cons] at hintime hcursor hcount
    obtain ⟨hlater, horder⟩ := List.pairwise_cons.1 horder
    have hintime' : seen ≠ [] → p.own id ++ (posts.flatMap (Post.own id) ++ rest) ≠ [] →
        p.tx.block ≤ Word.addSat first s.table.timeout := fun _ =>
      le_of_toCome hintime.1 hlater hintime.2
    have hfirst' : seen = [] → p.own id ≠ [] → p.tx.block = first := fun hseen hown =>
      hfirst hseen p (List.find?_cons_of_pos (decide_eq_true hown))
    obtain ⟨hclosed, hstage, htimeout⟩ :=
      push_stage hall rfl h hperm hfirst' hintime' hcursor.1 hcount.1
    have hperm' : (seen ++ p.own id ++ (posts.flatMap (Post.own id) ++ rest)).Perm all := by
      rw [List.append_assoc]
      exact hperm
    have hfirst'' : seen ++ p.own id = [] →
        ∀ q, posts.find? (·.own id ≠ []) = some q → q.tx.block = first := by
      intro hnil q hq
      obtain ⟨hseen, hp⟩ := List.append_eq_nil_iff.1 hnil
      exact hfirst hseen q ((List.find?_cons_of_neg (by simp [hp])).trans hq)
    have hcursor' : ∀ q ∈ posts, q.own id ≠ [] → ∀ current,
        (s.push p.tx p.blobs).2.block? = some current → current ≤ q.tx.block := by
      intro q hq hown current hcurrent
      rcases block?_push s p.tx p.blobs hcurrent with rfl | hold
      · exact hlater q hq hown
      · exact hcursor.2 q hq hown current hold
    obtain ⟨hrun, hstage', htimeout'⟩ := ih hstage hperm' hfirst''
      (by rw [htimeout]; exact hintime.2) horder hcursor' hcount.2
    refine ⟨?_, ?_, htimeout'.trans htimeout⟩
    · rw [pushAll, completions, List.map_cons, hclosed, hrun]
      rfl
    · rw [List.flatMap_cons, ← List.append_assoc]
      exact hstage'

/-! ## A channel from its first frame to its last -/

/-- Something is the first that has frames, and in the earliest block of all that have some. -/
theorem exists_first {α : Type} {frames : α → List Frame} {block : α → Word} {as : List α}
    (hsome : as.flatMap frames ≠ [])
    (horder : as.Pairwise fun a b => frames b ≠ [] → block a ≤ block b) :
    ∃ a ∈ as, as.find? (frames · ≠ []) = some a ∧ frames a ≠ [] ∧
      ∀ b ∈ as, frames b ≠ [] → block a ≤ block b := by
  induction as with
  | nil => exact absurd rfl hsome
  | cons a as ih =>
    obtain ⟨hlater, horder⟩ := List.pairwise_cons.1 horder
    by_cases hframes : frames a = []
    · rw [List.flatMap_cons, hframes, List.nil_append] at hsome
      obtain ⟨first, hmem, hfind, hfirst, hleast⟩ := ih hsome horder
      refine ⟨first, List.mem_cons_of_mem a hmem, ?_, hfirst, ?_⟩
      · rw [List.find?_cons_of_neg (by simpa using hframes)]
        exact hfind
      · rw [List.forall_mem_cons]
        exact ⟨fun hne => absurd hframes hne, hleast⟩
    · refine ⟨a, List.mem_cons_self, List.find?_cons_of_pos (decide_eq_true hframes), hframes, ?_⟩
      rw [List.forall_mem_cons]
      exact ⟨fun _ => UInt64.le_refl _, hlater⟩

/-- Some transaction is the last with frames of the channel. -/
theorem exists_last {posts : List Post} (hsome : posts.flatMap (Post.own id) ≠ []) :
    ∃ before p after, posts = before ++ p :: after ∧ p.own id ≠ [] ∧
      ∀ q ∈ after, q.own id = [] := by
  induction posts with
  | nil => exact absurd rfl hsome
  | cons p posts ih =>
    by_cases hlater : posts.flatMap (Post.own id) = []
    · rw [List.flatMap_cons, hlater, List.append_nil] at hsome
      exact ⟨[], p, posts, rfl, hsome, List.flatMap_eq_nil_iff.1 hlater⟩
    · obtain ⟨before, last, after, rfl, hspec⟩ := ih hlater
      exact ⟨p :: before, last, after, rfl, hspec⟩

theorem completions_of_silent {posts : List Post} (h : ∀ p ∈ posts, p.own id = []) :
    completions id first all rest posts = posts.map fun _ => [] := by
  induction posts with
  | nil => rfl
  | cons p posts ih =>
    rw [List.forall_mem_cons] at h
    rw [completions, ih h.2, if_neg fun hcloses => hcloses.1 h.1]
    rfl

/-- The channel comes out of the push with its last frames, and out of no other. -/
theorem completions_append {before after : List Post} {last : Post} (hlast : last.own id ≠ [])
    (hafter : ∀ p ∈ after, p.own id = []) :
    completions id first all [] (before ++ last :: after) =
      before.map (fun _ => []) ++ [whole id first all last.tx.position] ::
        after.map fun _ => [] := by
  induction before with
  | nil =>
    rw [List.nil_append, completions, List.flatMap_eq_nil_iff.2 hafter,
      completions_of_silent hafter, if_pos ⟨hlast, rfl⟩]
    rfl
  | cons p before ih =>
    rw [List.cons_append, completions, ih, if_neg]
    · rfl
    · intro hcloses
      rw [List.append_nil, List.flatMap_append, List.flatMap_cons] at hcloses
      exact hlast (List.append_eq_nil_iff.1 (List.append_eq_nil_iff.1 hcloses.2).2).1

/-- The channel comes out of the push that brings its last missing frames, and out of no other. -/
def ClosesWith (s : Intake) (id : ChannelId) (posts : List Post) (closed : ClosedChannel) : Prop :=
  ∃ before last after, posts = before ++ last :: after ∧
    last.own id ≠ [] ∧ (∀ p ∈ after, p.own id = []) ∧
    (s.pushAll posts).1.map (closedOf id) =
      before.map (fun _ => []) ++ [closed] :: after.map (fun _ => []) ∧
    closed.closedAt = last.tx.position

/-- **All frames of a channel**, each once and in any order but in time, close it. -/
theorem closesWith_of_perm (hall : Frame.IsWhole id all) {s : Intake} {posts : List Post}
    (honce : (posts.flatMap (Post.own id)).Perm all)
    (horder : posts.Pairwise fun p q => q.own id ≠ [] → p.tx.block ≤ q.tx.block)
    (hspan : ∀ p ∈ posts, ∀ q ∈ posts, p.own id ≠ [] → q.own id ≠ [] →
      q.tx.block.toNat ≤ p.tx.block.toNat + s.table.timeout.toNat)
    (hcursor : ∀ p ∈ posts, p.own id ≠ [] →
      ∀ current, s.block? = some current → current ≤ p.tx.block)
    (hcount : ∀ p ∈ posts, p.own id ≠ [] → p.HasBlobs)
    (hnew : s.table.find? id = none) :
    ∃ first ∈ posts, ∃ closedAt, first.own id ≠ [] ∧
      (∀ p ∈ posts, p.own id ≠ [] → first.tx.block ≤ p.tx.block) ∧
      s.ClosesWith id posts (whole id first.tx.block all closedAt) := by
  have hsome : posts.flatMap (Post.own id) ≠ [] := by
    obtain ⟨f, hf, -⟩ := hall.exists_last
    exact List.ne_nil_of_mem (honce.mem_iff.2 hf)
  obtain ⟨first, hfirstMem, hfind, hfirst, hleast⟩ := exists_first hsome horder
  obtain ⟨before, last, after, hsplit, hlast, hafter⟩ := exists_last hsome
  refine ⟨first, hfirstMem, last.tx.position, hfirst, hleast, before, last, after, hsplit, hlast,
    hafter, ?_, rfl⟩
  have hstage : s.table.Stage id first.tx.block [] (posts.flatMap (Post.own id) ++ []) :=
    .inl ⟨.inl rfl, hnew⟩
  have hperm : ([] ++ (posts.flatMap (Post.own id) ++ [])).Perm all := by
    rw [List.nil_append, List.append_nil]
    exact honce
  have hfirst' : ∀ p, posts.find? (·.own id ≠ []) = some p → p.tx.block = first.tx.block := by
    intro p hp
    rw [Option.some.inj (hfind.symm.trans hp)]
  have hintime : ∀ p ∈ posts, p.own id ≠ [] ∨ ([] : List Frame) ≠ [] →
      p.tx.block ≤ Word.addSat first.tx.block s.table.timeout := fun p hp hown =>
    Word.le_addSat (hspan first hfirstMem p hp hfirst (hown.resolve_right fun h => h rfl))
  rw [(pushAll_stage hall hstage hperm (fun _ => hfirst') hintime horder hcursor hcount).1, hsplit,
    completions_append hlast hafter]

end Intake
end BatchInbox
