import BatchInbox.Proofs.Intake

/-!
# The fate of one channel

Channels share a table, and the checks for timeouts go over all of it, at blocks that have nothing
to do with a single channel.  Here everything about the other channels is forgotten: what is left is
the entry of one channel, what was closed under its id, and what was given up.

Two laws make the blocks of the checks irrelevant.  A check does all that the checks at earlier
blocks would have done (`wait_wait`), and right behind a frame there is nothing to check
(`wait_take`).  So it is enough to check when a frame of the channel arrives.

## What is here

* `ChannelTable.IsAscending` — a channel has one entry at most.
* `ChannelTable.find?_expire`, `filter_expire`, `filter_finish` — a check, seen from one channel.
* `ChannelFate` — a channel on its own; `wait`, `take`, `finish` — what happens to it.
* `ChannelFate.wait_wait`, `ChannelFate.wait_take` — the two laws.
* `ChannelFate.ofArrivals` — the fate of a channel whose frames arrive.
-/

set_option autoImplicit false
namespace BatchInbox

namespace ChannelTable
variable {t t' : ChannelTable} {id : ChannelId}

/-! ## Ascending tables -/

/-- The ids of entries ascend. -/
def Ascending (entries : List (ChannelId × Entry)) : Prop :=
  entries.Pairwise fun a b => compare a.1 b.1 = .lt

/-- The ids of the entries ascend, so a channel has one entry at most. -/
def IsAscending (t : ChannelTable) : Prop := Ascending t.entries

theorem isAscending_new (timeout : Word) : (new timeout).IsAscending := List.Pairwise.nil

theorem mem_setEntry {entry : Entry} {entries : List (ChannelId × Entry)}
    {e : ChannelId × Entry} (h : e ∈ setEntry id entry entries) :
    e = (id, entry) ∨ e ∈ entries := by
  induction entries with
  | nil => exact .inl (List.mem_singleton.1 h)
  | cons e' entries ih =>
    rw [setEntry] at h
    split at h
    · exact List.mem_cons.1 h
    · exact (List.mem_cons.1 h).imp_right fun h => List.mem_cons_of_mem e' h
    · rcases List.mem_cons.1 h with rfl | h
      · exact .inr List.mem_cons_self
      · exact (ih h).imp_right fun h => List.mem_cons_of_mem e' h

theorem Ascending.setEntry {entries : List (ChannelId × Entry)} (h : Ascending entries)
    (id : ChannelId) (entry : Entry) : Ascending (setEntry id entry entries) := by
  induction entries with
  | nil => exact List.pairwise_singleton _ _
  | cons e entries ih =>
    obtain ⟨he, hentries⟩ := List.pairwise_cons.1 h
    rw [ChannelTable.setEntry]
    split
    · rename_i hlt
      refine List.pairwise_cons.2 ⟨fun e' he' => ?_, h⟩
      rcases List.mem_cons.1 he' with rfl | he'
      · exact hlt
      · exact BytesN.lt_trans hlt (he e' he')
    · rename_i heq
      refine List.pairwise_cons.2 ⟨fun e' he' => ?_, hentries⟩
      rw [BytesN.eq_of_compare heq]
      exact he e' he'
    · rename_i hgt
      refine List.pairwise_cons.2 ⟨fun e' he' => ?_, ih hentries⟩
      rcases mem_setEntry he' with rfl | he'
      · exact BytesN.lt_of_gt hgt
      · exact he e' he'

theorem IsAscending.expire (h : t.IsAscending) (block : Word) :
    (t.expire block).2.IsAscending :=
  List.Pairwise.filter _ (List.pairwise_map.2 h)

theorem IsAscending.add (h : t.IsAscending) (f : Frame) (source : L1Position) :
    (t.add f source).2.IsAscending := by
  rcases t.add_cases f source with ⟨e, -, hadd⟩ | ⟨c, c', -, -, ⟨-, hadd⟩ | ⟨-, hadd⟩⟩ <;> rw [hadd]
  · exact h
  · exact Ascending.setEntry h f.channel (.open c')
  · exact List.Pairwise.filter _ h

theorem timeout_add (t : ChannelTable) (f : Frame) (source : L1Position) :
    (t.add f source).2.timeout = t.timeout := by
  rcases t.add_cases f source with ⟨e, -, hadd⟩ | ⟨c, c', -, -, ⟨-, hadd⟩ | ⟨-, hadd⟩⟩ <;>
    rw [hadd] <;> rfl

/-! ## A check, seen from one channel -/

/-- The entry behind a check for timeouts, if it still stands. -/
def Entry.age? (timeout block : Word) (e : Entry) : Option Entry :=
  if (e.expire timeout block).isCurrent timeout block then some (e.expire timeout block) else none

/-- The ids behind the first one are other ids. -/
theorem Ascending.lookup_eq_none {e : ChannelId × Entry} {entries : List (ChannelId × Entry)}
    (h : Ascending (e :: entries)) : entries.lookup e.1 = none := by
  rw [List.lookup_eq_none_iff]
  intro e' he'
  exact bne_iff_ne.2 (BytesN.ne_of_lt ((List.pairwise_cons.1 h).1 e' he'))

/-- What is changed or left out entry by entry is changed or left out under each id. -/
theorem Ascending.lookup_filterMap {g : Entry → Option Entry}
    {entries : List (ChannelId × Entry)} (h : Ascending entries) :
    (entries.filterMap fun e => (g e.2).map (e.1, ·)).lookup id = (entries.lookup id).bind g := by
  induction entries with
  | nil => rfl
  | cons e entries ih =>
    have hlater := ih (List.pairwise_cons.1 h).2
    rw [List.lookup_cons, List.filterMap_cons]
    by_cases hid : id = e.1
    · subst hid
      rw [h.lookup_eq_none] at hlater
      rw [beq_self_eq_true]
      cases hg : g e.2 with
      | none => simpa [hg] using hlater
      | some e' => simp [hg]
    · rw [beq_false_of_ne hid]
      cases hg : g e.2 with
      | none => simpa using hlater
      | some e' => simpa [List.lookup_cons, beq_false_of_ne hid] using hlater

/-- What is given up entry by entry is given up under each id. -/
theorem Ascending.filter_filterMap {g : ChannelId × Entry → Option DroppedChannel}
    (hg : ∀ e d, g e = some d → d.id = e.1) {entries : List (ChannelId × Entry)}
    (h : Ascending entries) :
    (entries.filterMap g).filter (·.id = id) =
      ((entries.lookup id).bind fun e => g (id, e)).toList := by
  induction entries with
  | nil => rfl
  | cons e entries ih =>
    have hlater := ih (List.pairwise_cons.1 h).2
    rw [List.lookup_cons, List.filterMap_cons]
    by_cases hid : id = e.1
    · subst hid
      rw [h.lookup_eq_none] at hlater
      rw [beq_self_eq_true]
      cases hdrop : g e with
      | none => simpa [hdrop] using hlater
      | some d => simpa [hdrop, hg e d hdrop] using hlater
    · rw [beq_false_of_ne hid]
      cases hdrop : g e with
      | none => simpa using hlater
      | some d =>
        rw [List.filter_cons_of_neg (by simpa [hg e d hdrop] using Ne.symm hid)]
        exact hlater

/-- A check for timeouts goes over the table entry by entry. -/
theorem entries_expire (t : ChannelTable) (block : Word) :
    (t.expire block).2.entries =
      t.entries.filterMap fun e => (e.2.age? t.timeout block).map (e.1, ·) := by
  simp only [expire]
  rw [List.filter_map, ← List.filterMap_eq_map, ← List.filterMap_eq_filter,
    List.filterMap_filterMap]
  congr 1
  funext e
  simp only [Entry.age?]
  split <;> simp_all

/-- A check for timeouts, seen from one channel. -/
theorem find?_expire (h : t.IsAscending) (block : Word) :
    (t.expire block).2.find? id = (t.find? id).bind (Entry.age? t.timeout block) := by
  rw [find?, entries_expire]
  exact h.lookup_filterMap

theorem id_of_expired? {timeout block : Word} {e : ChannelId × Entry} {d : DroppedChannel}
    (h : expired? timeout block e = some d) : d.id = e.1 := by
  obtain ⟨id, c | firstSeen⟩ := e
  · rw [expired?] at h
    split at h <;> cases h
    rfl
  · exact absurd h nofun

theorem id_of_unclosed? {timeout block : Word} {e : ChannelId × Entry} {d : DroppedChannel}
    (h : unclosed? timeout block e = some d) : d.id = e.1 := by
  obtain ⟨id, c | firstSeen⟩ := e
  · cases h
    rfl
  · exact absurd h nofun

theorem filter_expire (h : t.IsAscending) (block : Word) :
    (t.expire block).1.filter (·.id = id) =
      ((t.find? id).bind fun e => expired? t.timeout block (id, e)).toList :=
  h.filter_filterMap fun _ _ => id_of_expired?

theorem filter_finish (h : t.IsAscending) (block : Word) :
    (t.finish block).1.filter (·.id = id) =
      ((t.find? id).bind fun e => unclosed? t.timeout block (id, e)).toList :=
  h.filter_filterMap fun _ _ => id_of_unclosed?

/-! ## A frame, seen from its channel -/

/-- The table in which no other channel has an entry. -/
def only (timeout : Word) (id : ChannelId) (known? : Option Entry) : ChannelTable :=
  ⟨timeout, (known?.map (id, ·)).toList⟩

@[simp]
theorem find?_only (timeout : Word) (id : ChannelId) (known? : Option Entry) :
    (only timeout id known?).find? id = known? := by
  cases known? <;> simp [only, find?]

theorem addTo_congr {f : Frame} (h : t.find? f.channel = t'.find? f.channel) (c : OpenChannel)
    (source : L1Position) :
    (t.addTo c f source).1 = (t'.addTo c f source).1 ∧
      (t.addTo c f source).2.find? f.channel = (t'.addTo c f source).2.find? f.channel := by
  rw [addTo, addTo]
  split
  · exact ⟨rfl, h⟩
  · split
    · exact ⟨rfl, by simp⟩
    · exact ⟨rfl, by simp⟩

/-- What a frame does is a matter of the entry of its channel. -/
theorem add_congr {f : Frame} (h : t.find? f.channel = t'.find? f.channel)
    (source : L1Position) :
    (t.add f source).1 = (t'.add f source).1 ∧
      (t.add f source).2.find? f.channel = (t'.add f source).2.find? f.channel := by
  rw [add, add, ← h]
  split
  · exact ⟨rfl, h⟩
  · exact addTo_congr h _ source
  · exact addTo_congr h _ source

end ChannelTable

/-! ## A channel on its own -/

open ChannelTable (Entry)

/-- What is known of a channel, and what was closed and given up under its id. -/
structure ChannelFate where
  known? : Option Entry
  closed : List ClosedChannel
  dropped : List DroppedChannel

namespace ChannelFate
variable {timeout : Word} {id : ChannelId} {c : ChannelFate}

/-- Nothing is known of the channel. -/
def unknown : ChannelFate := ⟨none, [], []⟩

/-- A check for timeouts at a block. -/
def wait (timeout : Word) (id : ChannelId) (c : ChannelFate) (block : Word) : ChannelFate where
  known? := c.known?.bind (Entry.age? timeout block)
  closed := c.closed
  dropped := c.dropped ++
    (c.known?.bind fun e => ChannelTable.expired? timeout block (id, e)).toList

/-- A frame of the channel is added. -/
def take (timeout : Word) (c : ChannelFate) (f : Frame) (source : L1Position) : ChannelFate :=
  let (result, table) := (ChannelTable.only timeout f.channel c.known?).add f source
  ⟨table.find? f.channel, c.closed ++ result.toOption.join.toList, c.dropped⟩

/-- What was given up of the channel when there is nothing more to read behind a block. -/
def finish (timeout : Word) (id : ChannelId) (c : ChannelFate) (block : Word) :
    List DroppedChannel :=
  let c := c.wait timeout id block
  c.dropped ++ (c.known?.bind fun e => ChannelTable.unclosed? timeout block (id, e)).toList

/-- A frame of the channel arrives: a check, and the frame is added. -/
def arrive (timeout : Word) (id : ChannelId) (c : ChannelFate) (arrival : Frame × L1Position) :
    ChannelFate :=
  (c.wait timeout id arrival.2.block).take timeout arrival.1 arrival.2

/-- The fate of a channel whose frames arrive, each from its place on L1. -/
def ofArrivals (timeout : Word) (id : ChannelId) (arrivals : List (Frame × L1Position)) :
    ChannelFate :=
  arrivals.foldl (arrive timeout id) unknown

/-! ## The laws -/

/-- What has timed out stays so. -/
theorem isTimedOut_mono {c : OpenChannel} {block later : Word} (hle : block ≤ later)
    (h : c.isTimedOut block timeout = true) : c.isTimedOut later timeout = true := by
  rw [OpenChannel.isTimedOut, decide_eq_true_eq] at h ⊢
  exact UInt64.lt_of_lt_of_le h hle

/-- A mark that is gone stays gone. -/
theorem isCurrent_anti {firstSeen block later : Word} (hle : block ≤ later)
    (h : (Entry.timedOut firstSeen).isCurrent timeout later = true) :
    (Entry.timedOut firstSeen).isCurrent timeout block = true := by
  rw [Entry.isCurrent, decide_eq_true_eq] at h ⊢
  exact UInt64.le_trans hle h

theorem age?_mark (firstSeen block : Word) :
    (Entry.timedOut firstSeen).age? timeout block =
      if (Entry.timedOut firstSeen).isCurrent timeout block then some (.timedOut firstSeen)
      else none := rfl

theorem age?_open (c : OpenChannel) (block : Word) :
    (Entry.open c).age? timeout block =
      if c.isTimedOut block timeout then (Entry.timedOut c.firstSeen).age? timeout block
      else some (.open c) := by
  rw [Entry.age?, Entry.expire]
  split
  · rfl
  · rfl

/-- Two checks of a mark are the later one. -/
theorem bind_age?_mark {block later : Word} (hle : block ≤ later) (firstSeen : Word) :
    ((Entry.timedOut firstSeen).age? timeout block).bind (Entry.age? timeout later) =
      (Entry.timedOut firstSeen).age? timeout later := by
  rw [age?_mark]
  split
  · rfl
  · rename_i hgone
    rw [age?_mark, if_neg (mt (isCurrent_anti hle) hgone)]
    rfl

theorem expired?_open (c : OpenChannel) (block : Word) :
    ChannelTable.expired? timeout block (id, .open c) =
      if c.isTimedOut block timeout then some (c.drop id .timedOut) else none := rfl

theorem expired?_mark (firstSeen block : Word) :
    ChannelTable.expired? timeout block (id, .timedOut firstSeen) = none := rfl

/-- Behind a mark, no channel is given up. -/
theorem bind_expired?_mark (firstSeen block later : Word) :
    (((Entry.timedOut firstSeen).age? timeout block).bind fun e =>
      ChannelTable.expired? timeout later (id, e)) = none := by
  rw [age?_mark]
  split <;> rfl

/-- **Two checks are the later one.** -/
theorem wait_wait {block later : Word} (hle : block ≤ later) (c : ChannelFate) :
    (c.wait timeout id block).wait timeout id later = c.wait timeout id later := by
  obtain ⟨_ | c | firstSeen, closed, dropped⟩ := c
  · simp only [wait, Option.bind_none, Option.toList_none, List.append_nil]
  · cases htimedOut : c.isTimedOut block timeout with
    | true =>
      have hlater := isTimedOut_mono hle htimedOut
      simp only [wait, Option.bind_some, age?_open, expired?_open, htimedOut, hlater, if_true,
        bind_age?_mark hle, bind_expired?_mark, Option.toList_none, List.append_nil]
    | false =>
      simp only [wait, Option.bind_some, age?_open, expired?_open, htimedOut, Bool.false_eq_true,
        if_false, Option.toList_none, List.append_nil]
  · simp only [wait, Option.bind_some, bind_age?_mark hle, bind_expired?_mark, expired?_mark,
      Option.toList_none, List.append_nil]

/-- There is nothing to check about a channel that has no entry, or is open and in time. -/
theorem wait_eq_self {block : Word} (h : c.known? = none ∨
    ∃ channel : OpenChannel, c.known? = some (.open channel) ∧
      channel.isTimedOut block timeout = false) : c.wait timeout id block = c := by
  obtain ⟨known?, closed, dropped⟩ := c
  rcases h with rfl | ⟨channel, rfl, hintime⟩
  · simp [wait]
  · simp [wait, age?_open, expired?_open, hintime]

/-- A channel in time behind a check. -/
theorem isTimedOut_of_wait_eq_self {block : Word} (h : c.wait timeout id block = c)
    {channel : OpenChannel} (hentry : c.known? = some (.open channel)) :
    channel.isTimedOut block timeout = false := by
  have hage : (Entry.open channel).age? timeout block = some (.open channel) := by
    simpa [wait, hentry] using congrArg known? h
  rw [age?_open] at hage
  split at hage
  · rw [age?_mark] at hage
    split at hage <;> cases hage
  · rename_i hintime
    exact Bool.eq_false_iff.2 hintime

/-- Whether there is something to check is a matter of the entry. -/
theorem wait_eq_self_of_known {block : Word} {c' : ChannelFate}
    (h : c.wait timeout id block = c) (hentry : c'.known? = c.known?) :
    c'.wait timeout id block = c' := by
  have hage : c.known?.bind (Entry.age? timeout block) = c.known? := congrArg known? h
  have hdropped := List.append_right_eq_self.1 (congrArg dropped h)
  rw [wait, hentry, hage, hdropped, List.append_nil, ← hentry]

theorem known?_take (timeout : Word) (c : ChannelFate) (f : Frame) (source : L1Position) :
    (c.take timeout f source).known? =
      ((ChannelTable.only timeout f.channel c.known?).add f source).2.find? f.channel := rfl

/-- **Right behind a frame there is nothing to check**, if there was nothing in front of it. -/
theorem wait_take {f : Frame} {source : L1Position}
    (h : c.wait timeout f.channel source.block = c) :
    (c.take timeout f source).wait timeout f.channel source.block = c.take timeout f source := by
  rcases (ChannelTable.only timeout f.channel c.known?).add_cases f source with
    ⟨e, -, hadd⟩ | ⟨channel, channel', hmeets, hchannel', ⟨-, hadd⟩ | ⟨-, hadd⟩⟩
  · exact wait_eq_self_of_known h (by rw [known?_take, hadd, ChannelTable.find?_only])
  · refine wait_eq_self (.inr ⟨channel', by rw [known?_take, hadd, ChannelTable.find?_set_self], ?_⟩)
    rw [OpenChannel.isTimedOut, OpenChannel.firstSeen_of_add hchannel']
    rcases hmeets with ⟨-, rfl⟩ | hentry
    · rw [decide_eq_false_iff_not, UInt64.not_lt]
      exact Word.le_addSat (Nat.le_add_right _ _)
    · rw [ChannelTable.find?_only] at hentry
      exact isTimedOut_of_wait_eq_self h hentry
  · exact wait_eq_self (.inl (by rw [known?_take, hadd, ChannelTable.find?_erase_self]))

/-- A check between the frames of one block makes no difference. -/
theorem wait_foldl_arrive (c : ChannelFate) {source : L1Position} {frames : List Frame}
    (hframes : ∀ f ∈ frames, f.channel = id) :
    ((frames.map (·, source)).foldl (arrive timeout id) c).wait timeout id source.block =
      frames.foldl (fun c f => c.take timeout f source) (c.wait timeout id source.block) := by
  induction frames generalizing c with
  | nil => rfl
  | cons f frames ih =>
    obtain ⟨rfl, hframes⟩ := List.forall_mem_cons.1 hframes
    have hsettled : ((c.wait timeout f.channel source.block).take timeout f source).wait timeout
        f.channel source.block = (c.wait timeout f.channel source.block).take timeout f source :=
      wait_take (wait_wait (UInt64.le_refl source.block) c)
    rw [List.map_cons, List.foldl_cons, List.foldl_cons, ih _ hframes, arrive, hsettled]

end ChannelFate
end BatchInbox
