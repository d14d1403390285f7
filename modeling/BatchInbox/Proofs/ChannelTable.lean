import BatchInbox.ChannelTable
import BatchInbox.Proofs.Channel

/-!
# A channel in the table

Channels share a table but not their fate: what happens to one depends on its own frames only.  So
the table is looked at through the entry of one channel, and everything about the others is
forgotten.

A channel whose frames arrive goes through three stages.  It has no entry, then an open one that
holds what has arrived, and none again when it has closed.

## What is here

* `ChannelTable.find?_set_self`, `find?_set_of_ne`, `find?_erase_self`, `find?_erase_of_ne` — the
  table as a map.
* `ChannelTable.add_cases` — all that a frame can do; `add_of_ne` — it does nothing to the entries
  of other channels.
* `ChannelTable.find?_expire_none`, `find?_expire_open` — what survives a check for timeouts.
* `ChannelTable.Stage` — how far a channel has got; `Stage.add` is the step.
-/

set_option autoImplicit false
namespace BatchInbox

/-- What is left out under one key does not matter under another. -/
theorem lookup_filter_of_ne {α β : Type} [BEq α] [LawfulBEq α] {key other : α} (h : other ≠ key)
    {p : α × β → Bool} (hp : ∀ e, p e = false → e.1 = key) (entries : List (α × β)) :
    (entries.filter p).lookup other = entries.lookup other := by
  induction entries with
  | nil => rfl
  | cons e entries ih =>
    rw [List.filter_cons]
    split
    · rw [List.lookup_cons, List.lookup_cons, ih]
    · rename_i he
      rw [List.lookup_cons, hp e (Bool.eq_false_iff.2 he), beq_false_of_ne h]
      exact ih

theorem BytesN.eq_of_compare {n : Nat} {a b : BytesN n} (h : compare a b = .eq) : a = b :=
  BytesN.ext (Std.LawfulEqCmp.eq_of_compare h)

theorem BytesN.compare_self {n : Nat} (a : BytesN n) : compare a a = .eq :=
  Std.ReflCmp.compare_self (a := a.toList)

instance {n : Nat} : Std.TransOrd (BytesN n) where
  eq_swap {a b} := Std.OrientedCmp.eq_swap (a := a.toList) (b := b.toList)
  isLE_trans {a b c} := Std.TransCmp.isLE_trans (a := a.toList) (b := b.toList) (c := c.toList)

theorem BytesN.lt_trans {n : Nat} {a b c : BytesN n} (hab : compare a b = .lt)
    (hbc : compare b c = .lt) : compare a c = .lt :=
  Std.TransCmp.lt_trans hab hbc

theorem BytesN.lt_of_gt {n : Nat} {a b : BytesN n} (h : compare a b = .gt) : compare b a = .lt :=
  Std.OrientedCmp.lt_of_gt h

theorem BytesN.ne_of_lt {n : Nat} {a b : BytesN n} (h : compare a b = .lt) : a ≠ b := by
  rintro rfl
  rw [BytesN.compare_self] at h
  exact absurd h nofun

namespace ChannelTable
variable {t : ChannelTable} {id : ChannelId}

/-! ## The table as a map -/

theorem lookup_setEntry_self (id : ChannelId) (entry : Entry) (entries : List (ChannelId × Entry)) :
    (setEntry id entry entries).lookup id = some entry := by
  induction entries with
  | nil => exact List.lookup_cons_self
  | cons e entries ih =>
    rw [setEntry]
    split
    · exact List.lookup_cons_self
    · exact List.lookup_cons_self
    · rename_i hgt
      have hne : id ≠ e.1 := by
        rintro rfl
        rw [BytesN.compare_self] at hgt
        exact absurd hgt nofun
      rw [List.lookup_cons, beq_false_of_ne hne]
      exact ih

theorem lookup_setEntry_of_ne {other : ChannelId} (h : other ≠ id) (entry : Entry)
    (entries : List (ChannelId × Entry)) :
    (setEntry id entry entries).lookup other = entries.lookup other := by
  have hfirst : ∀ es, ((id, entry) :: es).lookup other = es.lookup other := by
    intro es
    rw [List.lookup_cons, beq_false_of_ne h]
  induction entries with
  | nil => exact hfirst []
  | cons e entries ih =>
    rw [setEntry]
    split
    · exact hfirst _
    · rename_i heq
      rw [hfirst, List.lookup_cons, ← BytesN.eq_of_compare heq, beq_false_of_ne h]
    · rw [List.lookup_cons, List.lookup_cons, ih]

@[simp]
theorem find?_set_self (t : ChannelTable) (id : ChannelId) (entry : Entry) :
    (t.set id entry).find? id = some entry :=
  lookup_setEntry_self id entry t.entries

theorem find?_set_of_ne {other : ChannelId} (h : other ≠ id) (entry : Entry) :
    (t.set id entry).find? other = t.find? other :=
  lookup_setEntry_of_ne h entry t.entries

@[simp]
theorem find?_erase_self (t : ChannelTable) (id : ChannelId) : (t.erase id).find? id = none := by
  rw [find?, List.lookup_eq_none_iff]
  intro e he
  have := (List.mem_filter.1 he).2
  rw [decide_eq_true_eq] at this
  exact bne_iff_ne.2 this.symm

theorem find?_erase_of_ne {other : ChannelId} (h : other ≠ id) :
    (t.erase id).find? other = t.find? other :=
  lookup_filter_of_ne h (by simp) t.entries

/-! ## A frame -/

/-- The open channel that a frame is given to: that of its entry, or a new one. -/
def Meets (t : ChannelTable) (f : Frame) (source : L1Position) (c : OpenChannel) : Prop :=
  t.find? f.channel = none ∧ c = .new source.block ∨ t.find? f.channel = some (.open c)

section
variable {f : Frame} {source : L1Position}

theorem Meets.add_eq {c : OpenChannel} (h : t.Meets f source c) :
    t.add f source = t.addTo c f source := by
  rcases h with ⟨hnone, rfl⟩ | hopen
  · rw [add, hnone]
  · rw [add, hopen]

/-- A channel that has timed out takes no frame. -/
theorem add_of_timedOut {first : Word} (h : t.find? f.channel = some (.timedOut first))
    (source : L1Position) : t.add f source = (.error .timedOut, t) := by
  rw [add, h]

/-- **All that a frame can do.**  It is refused, or its channel takes it and then waits for more, or
closes.  Only a channel with an entry refuses one. -/
theorem add_cases (t : ChannelTable) (f : Frame) (source : L1Position) :
    (∃ e, t.find? f.channel ≠ none ∧ t.add f source = (.error e, t)) ∨
    ∃ c c' : OpenChannel, t.Meets f source c ∧ c.add f = .ok c' ∧
      (c'.isComplete = false ∧ t.add f source = (.ok none, t.set f.channel (.open c')) ∨
        c'.isComplete = true ∧
          t.add f source = (.ok (some (c'.close f.channel source)), t.erase f.channel)) := by
  have htaken : ∀ c c' : OpenChannel, t.Meets f source c → c.add f = .ok c' →
      c'.isComplete = false ∧ t.add f source = (.ok none, t.set f.channel (.open c')) ∨
        c'.isComplete = true ∧
          t.add f source = (.ok (some (c'.close f.channel source)), t.erase f.channel) := by
    intro c c' hmeets hc'
    rw [hmeets.add_eq, addTo, hc']
    cases hcomplete : c'.isComplete with
    | true => exact .inr ⟨rfl, by simp [hcomplete]⟩
    | false => exact .inl ⟨rfl, by simp [hcomplete]⟩
  rcases hentry : t.find? f.channel with _ | c | first
  · obtain ⟨c', hc'⟩ := OpenChannel.add_new source.block f
    exact .inr ⟨_, c', .inl ⟨hentry, rfl⟩, hc', htaken _ c' (.inl ⟨hentry, rfl⟩) hc'⟩
  · have hmeets : t.Meets f source c := .inr hentry
    cases hc' : c.add f with
    | error e => exact .inl ⟨e, nofun, by rw [hmeets.add_eq, addTo, hc']⟩
    | ok c' => exact .inr ⟨c, c', hmeets, hc', htaken c c' hmeets hc'⟩
  · exact .inl ⟨.timedOut, nofun, add_of_timedOut hentry source⟩

/-- A frame does nothing to the entries of other channels, and closes none of them. -/
theorem add_of_ne (h : f.channel ≠ id) (source : L1Position) :
    (t.add f source).2.find? id = t.find? id ∧ (t.add f source).2.timeout = t.timeout ∧
      ∀ done, (t.add f source).1 = .ok (some done) → done.id ≠ id := by
  rcases t.add_cases f source with ⟨e, -, hadd⟩ | ⟨c, c', -, -, ⟨-, hadd⟩ | ⟨-, hadd⟩⟩ <;> rw [hadd]
  · exact ⟨rfl, rfl, nofun⟩
  · exact ⟨find?_set_of_ne h.symm _, rfl, nofun⟩
  · refine ⟨find?_erase_of_ne h.symm, rfl, fun done hdone => ?_⟩
    cases hdone
    exact h

end

/-! ## Timeouts -/

/-- A check for timeouts begins no channel. -/
theorem find?_expire_none (h : t.find? id = none) (block : Word) :
    (t.expire block).2.find? id = none := by
  rw [find?, List.lookup_eq_none_iff] at h ⊢
  intro e he
  obtain ⟨e', he', rfl⟩ := List.mem_map.1 (List.mem_filter.1 he).1
  exact h e' he'

/-- An open channel within the timeout survives a check. -/
theorem find?_expire_open {c : OpenChannel} (h : t.find? id = some (.open c)) {block : Word}
    (hblock : c.isTimedOut block t.timeout = false) :
    (t.expire block).2.find? id = some (.open c) := by
  simp only [find?, expire] at h ⊢
  generalize t.entries = entries at h ⊢
  induction entries with
  | nil => exact absurd h nofun
  | cons e entries ih =>
    rw [List.lookup_cons] at h
    rw [List.map_cons]
    split at h
    · rename_i hid
      have hself : e.2.expire t.timeout block = .open c := by
        rw [Option.some.inj h, Entry.expire, hblock]
        rfl
      rw [List.filter_cons_of_pos (by rw [hself]; rfl), List.lookup_cons, hid, hself]
    · rename_i hid
      rw [List.filter_cons]
      split
      · rw [List.lookup_cons, hid]
        exact ih h
      · exact ih h

/-! ## Stages -/

/-- How far a channel has got that is cut into `seen ++ rest`, of which the frames `seen` have
arrived, in this order.  The first of them came in the block `first`. -/
def Stage (t : ChannelTable) (id : ChannelId) (first : Word) (seen rest : List Frame) : Prop :=
  (seen = [] ∨ rest = []) ∧ t.find? id = none ∨
    seen ≠ [] ∧ rest ≠ [] ∧
      ∃ c : OpenChannel, t.find? id = some (.open c) ∧ c.firstSeen = first ∧ c.Holds seen

section
variable {first : Word} {all seen rest : List Frame}

/-- The stage is a matter of the channel's own entry. -/
theorem Stage.congr {t' : ChannelTable} (h : t.Stage id first seen rest)
    (hfind : t'.find? id = t.find? id) : t'.Stage id first seen rest := by
  rw [Stage, hfind]
  exact h

/-- A check for timeouts changes nothing, unless frames are still to come when it is too late for
them. -/
theorem Stage.expire (h : t.Stage id first seen rest) {block : Word}
    (hblock : seen ≠ [] → rest ≠ [] → block ≤ Word.addSat first t.timeout) :
    (t.expire block).2.Stage id first seen rest := by
  rcases h with ⟨hends, hfind⟩ | ⟨hseen, hrest, c, hfind, hfirst, hholds⟩
  · exact .inl ⟨hends, find?_expire_none hfind block⟩
  · have hintime : c.isTimedOut block t.timeout = false := by
      rw [OpenChannel.isTimedOut, hfirst, decide_eq_false_iff_not, UInt64.not_lt]
      exact hblock hseen hrest
    exact .inr ⟨hseen, hrest, c, find?_expire_open hfind hintime, hfirst, hholds⟩

/-- **The step.**  A missing frame is taken, and the last missing one closes the channel. -/
theorem Stage.add {f : Frame} (h : t.Stage id first seen (f :: rest))
    (hall : Frame.IsWhole id all) (hperm : (seen ++ f :: rest).Perm all) {source : L1Position}
    (hfirst : seen = [] → source.block = first) :
    (t.add f source).1 = .ok (if rest = [] then
        some ⟨id, first, source, all.length, all.flatMap (·.data)⟩ else none) ∧
      (t.add f source).2.Stage id first (seen ++ [f]) rest ∧
      (t.add f source).2.timeout = t.timeout := by
  have hid : f.channel = id := hall.channel_eq f (hperm.mem_iff.1 (by simp))
  have hperm' : (seen ++ [f] ++ rest).Perm all := by simpa using hperm
  -- an open channel that holds what has arrived, be it new or not
  obtain ⟨c, hmeets, hcfirst, hholds⟩ : ∃ c : OpenChannel, t.Meets f source c ∧
      c.firstSeen = first ∧ c.Holds seen := by
    rcases h with ⟨hends, hfind⟩ | ⟨-, -, c, hfind, hcfirst, hholds⟩
    · obtain rfl : seen = [] := hends.resolve_right (List.cons_ne_nil f rest)
      exact ⟨.new source.block, .inl ⟨hid ▸ hfind, rfl⟩, hfirst rfl, OpenChannel.holds_new _⟩
    · exact ⟨c, .inr (hid ▸ hfind), hcfirst, hholds⟩
  obtain ⟨c', hc', hfirst', hholds'⟩ := hholds.add hall hperm
  have hcomplete := hholds'.isComplete_iff hall hperm'
  rw [hmeets.add_eq, addTo, hc', hid]
  simp only
  by_cases hrest : rest = []
  · subst hrest
    rw [List.append_nil] at hperm'
    rw [if_pos (hcomplete.2 rfl), if_pos rfl, hholds'.close_eq hall hperm' source, hfirst', hcfirst]
    exact ⟨rfl, .inl ⟨.inr rfl, find?_erase_self t id⟩, rfl⟩
  · rw [if_neg (mt hcomplete.1 hrest), if_neg hrest]
    exact ⟨rfl, .inr ⟨by simp, hrest, c', find?_set_self t id _, hfirst'.trans hcfirst, hholds'⟩,
      rfl⟩

end

end ChannelTable
end BatchInbox
