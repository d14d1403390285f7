import BatchInbox.Proofs.Lockstep
import Mathlib

/-!
# Halving, whatever the times are

The times of blocks ascend, but it is a node that tells them, and it may tell anything: times that go up
and down, or another time whenever it is asked.  Then there is no last block up to a time, and nothing
to be found.  Still a search comes to an end soon, asks for no block twice, and ends between two
neighbours that the node itself has put on different sides.

What a search does is a matter of the answers alone.  So they are written down, and the list of them is
what everything is proved about: a search that halves a range is an inductive relation between the
range, the list, and what comes of it.  As no block is asked for twice, there are times that agree with
the list, even if the node would not say the same again.

## What is here

* `HeaderNote`, `L1Source.noted` — what a node says about a header, and a node whose answers are written
  down.
* `Halving` — how a range is halved; `halving_bisect` says that it is.
* `Halving.between`, `Halving.nodup`, `Halving.length_le` — what is asked, and how much.
* `Halving.ends`, `Halving.failed_or_answered` — what is found, and why nothing may be.
* `EndsUpTo`, `StartsFrom` — the blocks where a search may end.
* `EndsSearch`, `IsSearch` — a search that ends there; `searches_end_between_neighbours` — both ends of
  the window are found by one.
* `IsSearch.found` — what is found if the node never tells another time of a block.
-/

set_option autoImplicit false
namespace BatchInbox
open Effect (Tracks)

/-! ## Answers that are written down -/

/-- What a node has said about the header of a block. -/
structure HeaderNote where
  number : Word
  answer : Except RpcError L1Header

/-- The times are those that the node has said. -/
def HeaderNote.Agrees (note : HeaderNote) (time : Word → Word) : Prop :=
  ∀ header, note.answer = .ok header → time note.number = header.timestamp

theorem HeaderNote.Agrees.update {note : HeaderNote} {time : Word → Word} (h : note.Agrees time)
    {n : Word} (hne : note.number ≠ n) (t : Word) : note.Agrees (Function.update time n t) := by
  intro header hanswer
  rw [Function.update_of_ne hne]
  exact h header hanswer

/-- There are times that agree with answers about different blocks. -/
theorem HeaderNote.exists_agrees {notes : List HeaderNote} (h : (notes.map (·.number)).Nodup) :
    ∃ time, ∀ note ∈ notes, note.Agrees time := by
  induction notes with
  | nil => exact ⟨fun _ => 0, by simp⟩
  | cons note notes ih =>
    obtain ⟨hnew, hnotes⟩ := List.nodup_cons.1 h
    obtain ⟨time, htime⟩ := ih hnotes
    obtain ⟨t, ht⟩ : ∃ t, ∀ header, note.answer = .ok header → t = header.timestamp := by
      rcases note with ⟨number, e | header⟩
      · exact ⟨0, nofun⟩
      · exact ⟨header.timestamp, by rintro _ ⟨⟩; rfl⟩
    refine ⟨Function.update time note.number t, List.forall_mem_cons.2 ⟨?_, ?_⟩⟩
    · intro header hanswer
      rw [Function.update_self, ht header hanswer]
    · intro other hother
      refine (htime other hother).update (fun heq => hnew ?_) t
      exact List.mem_map.2 ⟨other, hother, heq⟩

section
variable {σ : Type}

/-- A client whose answers about headers are written down. -/
def L1Source.noted (source : L1Source σ) : L1Source (σ × List HeaderNote) where
  finalized := source.finalized.onFst
  header n := .ofStep fun s =>
    let (answer, world) := (source.header n).step s.1
    (answer, (world, s.2 ++ [⟨n, answer⟩]))
  block n := (source.block n).onFst

theorem step_noted (source : L1Source σ) (n : Word) (s : σ × List HeaderNote) :
    (source.noted.header n).step s =
      (((source.header n).step s.1).1,
        (((source.header n).step s.1).2, s.2 ++ [⟨n, ((source.header n).step s.1).1⟩])) := rfl

/-- The node never tells another time of a block. -/
def L1Source.TellsTimes (source : L1Source σ) (time : Word → Word) : Prop :=
  ∀ n world header, ((source.header n).step world).1 = .ok header → time n = header.timestamp

/-- The world is the same next to notes, and the notes are what the node tells. -/
structure L1Source.IsNoted (source : L1Source σ) (s : σ × List HeaderNote) (world : σ) : Prop where
  world : s.1 = world
  told : ∀ time, source.TellsTimes time → ∀ note ∈ s.2, note.Agrees time

/-- To write answers down changes nothing. -/
theorem tracks_noted (source : L1Source σ) (n : Word) :
    Tracks False source.IsNoted Eq (source.noted.header n) (source.header n) := by
  rintro s _ ⟨rfl, hnotes⟩
  have hnoted : ∀ time, source.TellsTimes time →
      ∀ note ∈ s.2 ++ [⟨n, ((source.header n).step s.1).1⟩], note.Agrees time := by
    intro time htime
    rw [List.forall_mem_append, List.forall_mem_singleton]
    exact ⟨hnotes time htime, fun header hanswer => htime n s.1 header hanswer⟩
  rw [step_noted]
  revert hnoted
  rcases (source.header n).step s.1 with ⟨e | header, world⟩
  · intro hnoted
    exact .error e ⟨rfl, hnoted⟩
  · intro hnoted
    exact .ok rfl ⟨rfl, hnoted⟩

/-- The time of a block is what the header says that is written down. -/
theorem step_timeOf_noted (source : L1Source σ) (n : Nat) (s : σ × List HeaderNote) :
    (timeOf source.noted n).step s =
      (((source.header n.toUInt64).step s.1).1.map (·.timestamp),
        (((source.header n.toUInt64).step s.1).2,
          s.2 ++ [⟨n.toUInt64, ((source.header n.toUInt64).step s.1).1⟩])) := by
  rw [timeOf, Effect.step_bind, step_noted]
  rcases (source.header n.toUInt64).step s.1 with ⟨e | header, world⟩ <;> rfl

/-! ## Halving -/

/-- How the range from `low` to `high` is halved, where the lower side is where the times satisfy
`isLow`: what is written down, and what comes of it. -/
inductive Halving (isLow : Word → Bool) :
    (low high : Nat) → List HeaderNote → Except RpcError (Nat × Nat) → Prop
  | neighbours {low high : Nat} (h : high - low ≤ 1) : Halving isLow low high [] (.ok (low, high))
  | failed {low high : Nat} (h : 1 < high - low) (e : RpcError) :
    Halving isLow low high [⟨(low + (high - low) / 2).toUInt64, .error e⟩] (.error e)
  | lower {low high : Nat} {header : L1Header} {notes : List HeaderNote}
      {r : Except RpcError (Nat × Nat)} (h : 1 < high - low) (hlow : isLow header.timestamp = true)
      (rest : Halving isLow (low + (high - low) / 2) high notes r) :
    Halving isLow low high (⟨(low + (high - low) / 2).toUInt64, .ok header⟩ :: notes) r
  | upper {low high : Nat} {header : L1Header} {notes : List HeaderNote}
      {r : Except RpcError (Nat × Nat)} (h : 1 < high - low) (hlow : isLow header.timestamp = false)
      (rest : Halving isLow low (low + (high - low) / 2) notes r) :
    Halving isLow low high (⟨(low + (high - low) / 2).toUInt64, .ok header⟩ :: notes) r

/-- **A range is halved**, whatever the node says. -/
theorem halving_bisect (source : L1Source σ) (isLow : Word → Bool) (low high : Nat)
    (s : σ × List HeaderNote) : ∃ notes r world,
      (bisect (fun n => do return isLow (← timeOf source.noted n)) low high).step s =
        (r, (world, s.2 ++ notes)) ∧ Halving isLow low high notes r := by
  induction hgap : high - low using Nat.strongRecOn generalizing low high s with
  | ind gap ih =>
    rw [bisect]
    split
    · rename_i hwide
      simp only [Effect.step_bind, step_timeOf_noted]
      generalize hmiddle : low + (high - low) / 2 = middle
      rcases (source.header middle.toUInt64).step s.1 with ⟨e | header, world⟩
      · subst hmiddle
        exact ⟨_, _, world, rfl, .failed hwide e⟩
      · simp only [Except.map, Effect.step_pure]
        cases hlow : isLow header.timestamp
        · obtain ⟨notes, r, world', hstep, hrest⟩ := ih (middle - low) (by omega) low middle
            (world, s.2 ++ [⟨middle.toUInt64, .ok header⟩]) rfl
          subst hmiddle
          refine ⟨_, r, world', ?_, .upper hwide hlow hrest⟩
          simpa using hstep
        · obtain ⟨notes, r, world', hstep, hrest⟩ := ih (high - middle) (by omega) middle high
            (world, s.2 ++ [⟨middle.toUInt64, .ok header⟩]) rfl
          subst hmiddle
          refine ⟨_, r, world', ?_, .lower hwide hlow hrest⟩
          simpa using hstep
    · rename_i hnear
      exact ⟨[], _, s.1, by simp, .neighbours (by omega)⟩

namespace Halving
variable {isLow : Word → Bool} {low high : Nat} {notes : List HeaderNote}
  {r : Except RpcError (Nat × Nat)}

theorem toNat_middle (hwide : 1 < high - low) (hfits : high < UInt64.size) :
    ((low + (high - low) / 2).toUInt64).toNat = low + (high - low) / 2 :=
  UInt64.toNat_ofNat_of_lt (by omega)

/-- Only blocks between the ends are asked for. -/
theorem between (h : Halving isLow low high notes r) (hfits : high < UInt64.size) :
    ∀ note ∈ notes, low < note.number.toNat ∧ note.number.toNat < high := by
  induction h with
  | neighbours h => simp
  | failed h e =>
    have := toNat_middle h hfits
    simp only [List.mem_singleton, forall_eq]
    omega
  | lower h hlow rest ih | upper h hlow rest ih =>
    have hmiddle := toNat_middle h hfits
    rw [List.forall_mem_cons]
    refine ⟨by dsimp only; omega, ?_⟩
    intro note hnote
    have := ih (by omega) note hnote
    omega

/-- No block is asked for twice: each becomes an end of the range behind it. -/
theorem nodup (h : Halving isLow low high notes r) (hfits : high < UInt64.size) :
    (notes.map (·.number)).Nodup := by
  induction h with
  | neighbours h => simp
  | failed h e => simp
  | lower h hlow rest ih | upper h hlow rest ih =>
    have hmiddle := toNat_middle h hfits
    have hbetween := rest.between (by omega)
    refine List.nodup_cons.2 ⟨?_, ih (by omega)⟩
    rw [List.mem_map]
    rintro ⟨note, hnote, heq⟩
    have := hbetween note hnote
    rw [heq] at this
    dsimp only at this
    omega

/-- Each answer halves the range. -/
theorem length_le (h : Halving isLow low high notes r) {k : Nat} (hgap : high - low ≤ 2 ^ k) :
    notes.length ≤ k := by
  induction h generalizing k with
  | neighbours h => simp
  | failed h e =>
    cases k with
    | zero => omega
    | succ k => simp
  | lower h hlow rest ih | upper h hlow rest ih =>
    cases k with
    | zero => omega
    | succ k =>
      have := ih (k := k) (by omega)
      simpa using this

/-- Nothing is found only if the node has no answer, and then nothing more is asked. -/
theorem failed_or_answered (h : Halving isLow low high notes r) :
    (∃ e number, r = .error e ∧ notes.getLast? = some ⟨number, .error e⟩) ∨
      (∃ ends, r = .ok ends) ∧ ∀ note ∈ notes, ∃ header, note.answer = .ok header := by
  induction h with
  | neighbours h => exact .inr ⟨⟨_, rfl⟩, by simp⟩
  | failed h e => exact .inl ⟨e, _, rfl, rfl⟩
  | lower h hlow rest ih | upper h hlow rest ih =>
    rcases ih with ⟨e, number, hr, hlast⟩ | ⟨hr, hanswered⟩
    · exact .inl ⟨e, number, hr, by rw [List.getLast?_cons, hlast]; rfl⟩
    · exact .inr ⟨hr, List.forall_mem_cons.2 ⟨⟨_, rfl⟩, hanswered⟩⟩

/-- **What is found** are neighbours, of which the node has put the first on the lower side and the
second on the upper one, unless they are the ends that were given. -/
theorem ends (h : Halving isLow low high notes r) {time : Word → Word}
    (htime : ∀ note ∈ notes, note.Agrees time) {left right : Nat} (hr : r = .ok (left, right)) :
    (left = low ∨ isLow (time left.toUInt64) = true) ∧
      (right = high ∨ isLow (time right.toUInt64) = false) ∧
      (low < high → right = left + 1 ∧ right ≤ high) ∧ (high ≤ low → left = low ∧ right = high) := by
  induction h with
  | neighbours h =>
    cases hr
    exact ⟨.inl rfl, .inl rfl, fun _ => by omega, fun _ => ⟨rfl, rfl⟩⟩
  | failed h e => cases hr
  | lower h hlow rest ih =>
    obtain ⟨hmiddle, htime⟩ := List.forall_mem_cons.1 htime
    obtain ⟨hleft, hright, hnext, hsame⟩ := ih htime hr
    refine ⟨.inr ?_, hright, fun _ => hnext (by omega), fun _ => by omega⟩
    rcases hleft with rfl | hleft
    · rw [hmiddle _ rfl, hlow]
    · exact hleft
  | upper h hlow rest ih =>
    obtain ⟨hmiddle, htime⟩ := List.forall_mem_cons.1 htime
    obtain ⟨hleft, hright, hnext, hsame⟩ := ih htime hr
    refine ⟨hleft, .inr ?_, fun _ => by have := hnext (by omega); omega, fun _ => by omega⟩
    rcases hright with rfl | hright
    · rw [hmiddle _ rfl, hlow]
    · exact hright

end Halving

/-! ## The searches -/

/-- The block where a search up to a time ends, for these times: that block or the one behind it is on
the other side. -/
structure EndsUpTo (head : L1Header) (target : Word) (time : Word → Word) (n : Word) : Prop where
  all : head.timestamp ≤ target → n = head.number
  upTo : target < head.timestamp → n = 0 ∨ time n ≤ target
  next : target < head.timestamp → 0 < head.number → n < head.number ∧ target < time (n + 1)

/-- The block where a search from a time on ends, for these times: that block is on one side and the one
in front of it on the other. -/
structure StartsFrom (head : L1Header) (target : Word) (time : Word → Word) (n : Word) : Prop where
  all : head.timestamp ≤ target → n = head.number
  first : target < head.timestamp → target ≤ time 0 → n = 0
  between : target < head.timestamp → time 0 < target → 0 < head.number →
    0 < n ∧ n ≤ head.number ∧ time (n - 1) < target ∧ target ≤ time n

/-- What is written down of a search in front of a head, and what comes of it.  What is found is `Found`
for all times that agree with the answers, where the time of the head goes without asking. -/
structure EndsSearch (head : L1Header) (most : Nat) (Found : (Word → Word) → Word → Prop)
    (notes : List HeaderNote) (r : Except RpcError Word) : Prop where
  below : ∀ note ∈ notes, note.number < head.number ∨ note.number = 0
  once : (notes.map (·.number)).Nodup
  few : notes.length ≤ most
  /-- It fails with an answer that is none, after which it asks nothing more. -/
  ends :
    (∃ n, r = .ok n ∧ (∀ note ∈ notes, ∃ header, note.answer = .ok header) ∧
      ∀ time, (∀ note ∈ notes, note.Agrees time) →
        Found (Function.update time head.number head.timestamp) n) ∨
    ∃ e number, r = .error e ∧ notes.getLast? = some ⟨number, .error e⟩

/-- A search, by itself and with its answers written down. -/
structure IsSearch (source : L1Source σ) (head : L1Header) (most : Nat)
    (Found : (Word → Word) → Word → Prop) (plain : Except RpcError Word × σ)
    (noted : Except RpcError Word × σ × List HeaderNote) : Prop where
  same : plain = (noted.1, noted.2.1)
  told : ∀ time, source.TellsTimes time → ∀ note ∈ noted.2.2, note.Agrees time
  search : EndsSearch head most Found noted.2.2 noted.1

theorem EndsSearch.exists_agrees {head : L1Header} {most : Nat} {Found : (Word → Word) → Word → Prop}
    {notes : List HeaderNote} {r : Except RpcError Word} (h : EndsSearch head most Found notes r) :
    ∃ time, ∀ note ∈ notes, note.Agrees time :=
  HeaderNote.exists_agrees h.once

/-- If the node never tells another time of a block, then its times are the ones that count. -/
theorem IsSearch.found {source : L1Source σ} {head : L1Header} {most : Nat}
    {Found : (Word → Word) → Word → Prop} {n : Word} {world : σ}
    {noted : Except RpcError Word × σ × List HeaderNote}
    (h : IsSearch source head most Found (.ok n, world) noted) {time : Word → Word}
    (htime : source.TellsTimes time) : Found (Function.update time head.number head.timestamp) n := by
  have hok : .ok n = noted.1 := congrArg (·.1) h.same
  rcases h.search.ends with ⟨found, hfound, -, hends⟩ | ⟨e, number, hfailed, -⟩
  · rw [hfound] at hok
    cases hok
    exact hends time (h.told time htime)
  · rw [hfailed] at hok
    cases hok

namespace Halving
variable {head : L1Header} {target : Word} {isLow : Word → Bool} {notes : List HeaderNote}
  {r : Except RpcError (Nat × Nat)}

theorem below_head (h : Halving isLow 0 head.number.toNat notes r) :
    ∀ note ∈ notes, 0 < note.number ∧ note.number < head.number := by
  intro note hnote
  rw [UInt64.lt_iff_toNat_lt, UInt64.lt_iff_toNat_lt]
  exact h.between head.number.toNat_lt note hnote

/-- The times that agree with the answers also do so when the head has its own. -/
theorem agrees_update (h : Halving isLow 0 head.number.toNat notes r) {time : Word → Word}
    (htime : ∀ note ∈ notes, note.Agrees time) :
    ∀ note ∈ notes, note.Agrees (Function.update time head.number head.timestamp) := by
  intro note hnote
  exact (htime note hnote).update (UInt64.ne_of_lt (h.below_head note hnote).2) _

theorem length_le_bits (h : Halving isLow 0 head.number.toNat notes r) : notes.length ≤ 64 :=
  h.length_le (by have := head.number.toNat_lt; omega)

/-- The neighbours that are found in front of the head. -/
theorem ends_head (h : Halving isLow 0 head.number.toNat notes r) {time : Word → Word}
    (htime : ∀ note ∈ notes, note.Agrees time) {left right : Nat} (hr : r = .ok (left, right))
    (hhead : isLow head.timestamp = false) :
    (left = 0 ∨ isLow (Function.update time head.number head.timestamp left.toUInt64) = true) ∧
      isLow (Function.update time head.number head.timestamp right.toUInt64) = false ∧
      (0 < head.number → right.toUInt64 = left.toUInt64 + 1 ∧ left.toUInt64 < head.number ∧
        0 < right.toUInt64 ∧ right.toUInt64 ≤ head.number) ∧
      (head.number = 0 → right = 0) := by
  obtain ⟨hleft, hright, hnext, hsame⟩ := h.ends (h.agrees_update htime) hr
  refine ⟨hleft, ?_, ?_, ?_⟩
  · rcases hright with rfl | hright
    · simpa using hhead
    · exact hright
  · intro hpos
    rw [UInt64.lt_iff_toNat_lt, UInt64.toNat_zero] at hpos
    obtain ⟨rfl, hle⟩ := hnext hpos
    have hfits : head.number.toNat < UInt64.size := head.number.toNat_lt
    have htoNat : ∀ n ≤ head.number.toNat, n.toUInt64.toNat = n := by
      intro n hn
      exact UInt64.toNat_ofNat_of_lt' (by omega)
    refine ⟨UInt64.ofNat_add left 1, ?_⟩
    rw [UInt64.lt_iff_toNat_lt, UInt64.lt_iff_toNat_lt, UInt64.le_iff_toNat_le, UInt64.toNat_zero,
      htoNat left (by omega), htoNat (left + 1) hle]
    omega
  · intro hzero
    have := hsame (by simp [hzero])
    simpa [hzero] using this.2

/-- A search that halves the blocks in front of the head, when it has asked for block 0 or for nothing
before. -/
theorem endsSearch (h : Halving isLow 0 head.number.toNat notes r) (before : List HeaderNote)
    (hzero : ∀ note ∈ before, note.number = 0 ∧ ∃ header, note.answer = .ok header)
    (honce : before.length ≤ 1) {Found : (Word → Word) → Word → Prop} {pick : Nat × Nat → Word}
    (hfound : ∀ time left right, r = .ok (left, right) → (∀ note ∈ before ++ notes, note.Agrees time) →
      Found (Function.update time head.number head.timestamp) (pick (left, right))) :
    EndsSearch head (before.length + 64) Found (before ++ notes) (r.map pick) where
  below := by
    intro note hnote
    rcases List.mem_append.1 hnote with hbefore | hnote
    · exact .inr (hzero note hbefore).1
    · exact .inl (h.below_head note hnote).2
  once := by
    rw [List.map_append, List.nodup_append']
    refine ⟨?_, h.nodup head.number.toNat_lt, ?_⟩
    · match before, honce with
      | [], _ => exact .nil
      | [note], _ => exact List.nodup_singleton _
    · intro n hbefore hnotes
      obtain ⟨note, hnote, rfl⟩ := List.mem_map.1 hbefore
      obtain ⟨note', hnote', heq⟩ := List.mem_map.1 hnotes
      have hpos := (h.below_head note' hnote').1
      rw [heq, (hzero note hnote).1] at hpos
      exact absurd hpos (UInt64.lt_irrefl 0)
  few := by
    rw [List.length_append]
    exact Nat.add_le_add_left h.length_le_bits _
  ends := by
    rcases h.failed_or_answered with ⟨e, number, rfl, hlast⟩ | ⟨⟨⟨left, right⟩, rfl⟩, hanswered⟩
    · exact .inr ⟨e, number, rfl, by rw [List.getLast?_append, hlast]; rfl⟩
    · refine .inl ⟨_, rfl, ?_, fun time htime => hfound time left right rfl htime⟩
      intro note hnote
      rcases List.mem_append.1 hnote with hbefore | hnote
      · exact (hzero note hbefore).2
      · exact hanswered note hnote

end Halving

/-- Nothing is asked where the head is not behind the time. -/
theorem endsSearch_of_head {head : L1Header} {most : Nat} {Found : (Word → Word) → Word → Prop}
    (hfound : ∀ time, Found time head.number) :
    EndsSearch head most Found [] (.ok head.number) where
  below := by simp
  once := by simp
  few := by simp
  ends := .inl ⟨head.number, rfl, by simp, fun time _ => hfound _⟩

/-- Nothing but block 0 is asked for where there is no answer about it, or it is not before the time. -/
theorem endsSearch_of_zero {head : L1Header} {Found : (Word → Word) → Word → Prop}
    (answer : Except RpcError L1Header)
    (hfound : ∀ time zero, answer = .ok zero → time 0 = zero.timestamp →
      Found (Function.update time head.number head.timestamp) 0) :
    EndsSearch head 65 Found [⟨0, answer⟩] (answer.map fun _ => 0) where
  below := by simp
  once := by simp
  few := by simp
  ends := by
    rcases answer with e | zero
    · exact .inr ⟨e, 0, rfl, rfl⟩
    · refine .inl ⟨0, rfl, by simp, fun time htime => hfound time zero rfl ?_⟩
      exact htime ⟨0, .ok zero⟩ (List.mem_singleton_self _) zero rfl

/-! ## Up to a time -/

theorem endsUpTo_head {head : L1Header} {target : Word} (h : head.timestamp ≤ target)
    (time : Word → Word) : EndsUpTo head target time head.number where
  all _ := rfl
  upTo hlt := absurd h (UInt64.not_le.2 hlt)
  next hlt := absurd h (UInt64.not_le.2 hlt)

theorem Halving.endsUpTo {head : L1Header} {target : Word} {notes : List HeaderNote} {left right : Nat}
    (h : Halving (fun t => decide (t ≤ target)) 0 head.number.toNat notes (.ok (left, right)))
    (hhead : ¬head.timestamp ≤ target) {time : Word → Word} (htime : ∀ note ∈ notes, note.Agrees time) :
    EndsUpTo head target (Function.update time head.number head.timestamp) left.toUInt64 := by
  obtain ⟨hleft, hright, hnext, -⟩ := h.ends_head htime rfl (by simpa using hhead)
  refine ⟨fun hle => absurd hle hhead, fun _ => ?_, fun _ hpos => ?_⟩
  · exact hleft.imp (by rintro rfl; rfl) (by simp)
  · obtain ⟨hright_eq, hlt, -⟩ := hnext hpos
    refine ⟨hlt, ?_⟩
    rw [← hright_eq]
    simpa using hright

theorem endsSearch_lastAtOrBefore (source : L1Source σ) (target : Word) (head : L1Header) (world : σ) :
    ∃ notes r world', (lastAtOrBefore source.noted target head).step (world, []) =
      (r, (world', notes)) ∧ EndsSearch head 64 (EndsUpTo head target) notes r := by
  by_cases hhead : head.timestamp ≤ target
  · refine ⟨[], .ok head.number, world, ?_, endsSearch_of_head (endsUpTo_head hhead)⟩
    rw [lastAtOrBefore, if_pos hhead]
    rfl
  · obtain ⟨notes, r, world', hstep, hhalving⟩ :=
      halving_bisect source (fun t => decide (t ≤ target)) 0 head.number.toNat (world, [])
    refine ⟨[] ++ notes, r.map fun ends => ends.1.toUInt64, world', ?_, ?_⟩
    · rw [lastAtOrBefore, if_neg hhead, Effect.step_bind, hstep]
      rcases r with e | ends <;> rfl
    · refine hhalving.endsSearch [] (by simp) (by simp) fun time left right hr htime => ?_
      subst hr
      exact hhalving.endsUpTo hhead htime

/-! ## From a time on -/

theorem startsFrom_head {head : L1Header} {target : Word} (h : head.timestamp ≤ target)
    (time : Word → Word) : StartsFrom head target time head.number where
  all _ := rfl
  first hlt := absurd h (UInt64.not_le.2 hlt)
  between hlt := absurd h (UInt64.not_le.2 hlt)

/-- The time of block 0 is what was said about it, unless block 0 is the head. -/
theorem update_head_zero {head : L1Header} (hpos : 0 < head.number) (time : Word → Word) :
    Function.update time head.number head.timestamp 0 = time 0 :=
  Function.update_of_ne (UInt64.ne_of_lt hpos) _ _

theorem startsFrom_zero {head : L1Header} {target : Word} (hhead : ¬head.timestamp ≤ target)
    {time : Word → Word} (hzero : target ≤ time 0) :
    StartsFrom head target (Function.update time head.number head.timestamp) 0 where
  all hle := absurd hle hhead
  first _ _ := rfl
  between _ hlt hpos := by
    rw [update_head_zero hpos] at hlt
    exact absurd hzero (UInt64.not_le.2 hlt)

theorem Halving.startsFrom {head : L1Header} {target : Word} {notes : List HeaderNote}
    {left right : Nat}
    (h : Halving (fun t => decide (t < target)) 0 head.number.toNat notes (.ok (left, right)))
    (hhead : ¬head.timestamp ≤ target) {time : Word → Word} (hzero : ¬target ≤ time 0)
    (htime : ∀ note ∈ notes, note.Agrees time) :
    StartsFrom head target (Function.update time head.number head.timestamp) right.toUInt64 := by
  have hlt := UInt64.not_le.1 hhead
  obtain ⟨hleft, hright, hnext, hsame⟩ :=
    h.ends_head htime rfl (by simpa using UInt64.le_of_lt hlt)
  refine ⟨fun hle => absurd hle hhead, fun _ hfirst => ?_, fun _ hbefore hpos => ?_⟩
  · by_cases hnum : head.number = 0
    · rw [hsame hnum]
      rfl
    · rw [update_head_zero (UInt64.pos_iff_ne_zero.2 hnum)] at hfirst
      exact absurd hfirst hzero
  · obtain ⟨hright_eq, -, hpos', hle⟩ := hnext hpos
    refine ⟨hpos', hle, ?_, by simpa using hright⟩
    rw [hright_eq, UInt64.add_sub_cancel]
    rcases hleft with rfl | hleft
    · exact hbefore
    · simpa using hleft

theorem endsSearch_firstAtOrAfter (source : L1Source σ) (target : Word) (head : L1Header)
    (world : σ) :
    ∃ notes r world', (firstAtOrAfter source.noted target head).step (world, []) =
      (r, (world', notes)) ∧ EndsSearch head 65 (StartsFrom head target) notes r := by
  by_cases hhead : head.timestamp ≤ target
  · refine ⟨[], .ok head.number, world, ?_, endsSearch_of_head (startsFrom_head hhead)⟩
    rw [firstAtOrAfter, if_pos hhead]
    rfl
  · obtain ⟨⟨answer, world₀⟩, hanswer⟩ : ∃ said, (source.header 0).step world = said := ⟨_, rfl⟩
    have hfirst : (timeOf source.noted 0).step (world, []) =
        (answer.map (·.timestamp), (world₀, [⟨0, answer⟩])) := by
      rw [step_timeOf_noted, show Nat.toUInt64 0 = 0 from rfl, hanswer]
      rfl
    -- Block 0 settles the search unless it is before the time.
    by_cases hzero : ∃ zero, answer = .ok zero ∧ ¬target ≤ zero.timestamp
    · obtain ⟨zero, rfl, hzero⟩ := hzero
      obtain ⟨notes, r, world', hstep, hhalving⟩ := halving_bisect source
        (fun t => decide (t < target)) 0 head.number.toNat (world₀, [⟨0, .ok zero⟩])
      refine ⟨[⟨0, .ok zero⟩] ++ notes, r.map fun ends => ends.2.toUInt64, world', ?_, ?_⟩
      · rw [firstAtOrAfter, if_neg hhead, Effect.step_bind, hfirst]
        simp only [Except.map, if_neg hzero]
        rw [Effect.step_bind, hstep]
        rcases r with e | ends <;> rfl
      · refine hhalving.endsSearch [⟨0, .ok zero⟩] (by simp) (by simp)
          fun time left right hr htime => ?_
        subst hr
        obtain ⟨htime₀, htime⟩ := List.forall_mem_cons.1 htime
        rw [← htime₀ zero rfl] at hzero
        exact hhalving.startsFrom hhead hzero htime
    · refine ⟨[⟨0, answer⟩], answer.map fun _ => 0, world₀, ?_, ?_⟩
      · rw [firstAtOrAfter, if_neg hhead, Effect.step_bind, hfirst]
        rcases answer with e | zero
        · rfl
        · have hle : target ≤ zero.timestamp := by simpa using hzero
          simp [Except.map, hle]
      · refine endsSearch_of_zero answer fun time zero hok htime => startsFrom_zero hhead ?_
        rw [htime]
        simpa [hok] using hzero

/-! ## The window -/

/-- What is found is found without notes as well. -/
theorem isSearch_of_tracks {source : L1Source σ} {noted : Effect (σ × List HeaderNote) RpcError Word}
    {plain : Effect σ RpcError Word} (h : Tracks False source.IsNoted Eq noted plain)
    {head : L1Header} {most : Nat} {Found : (Word → Word) → Word → Prop} {world : σ}
    (hsearch : ∃ notes r world', noted.step (world, []) = (r, (world', notes)) ∧
      EndsSearch head most Found notes r) :
    IsSearch source head most Found (plain.step world) (noted.step (world, [])) := by
  have hends := h (world, []) world ⟨rfl, by simp⟩
  obtain ⟨notes, r, world', hstep, hsearch⟩ := hsearch
  refine ⟨Prod.ext hends.alike.eq.symm hends.states.world.symm, hends.states.told, ?_⟩
  rw [hstep]
  exact hsearch

/-- **Both searches end between neighbours**, whatever the node says: neither asks for a block twice, nor
for any but block 0 and those in front of the head, and the times that it was told put the blocks where
it ends on different sides. -/
theorem searches_end_between_neighbours (source : L1Source σ) (target : Word) (head : L1Header)
    (world : σ) :
    IsSearch source head 64 (EndsUpTo head target) ((lastAtOrBefore source target head).step world)
      ((lastAtOrBefore source.noted target head).step (world, [])) ∧
    IsSearch source head 65 (StartsFrom head target) ((firstAtOrAfter source target head).step world)
      ((firstAtOrAfter source.noted target head).step (world, [])) := by
  constructor
  · exact isSearch_of_tracks (tracks_lastAtOrBefore (tracks_noted source) target head)
      (endsSearch_lastAtOrBefore source target head world)
  · exact isSearch_of_tracks (tracks_firstAtOrAfter (tracks_noted source) target head)
      (endsSearch_firstAtOrAfter source target head world)

end

/-- Times that go up and down. -/
def jaggedTime (n : Word) : Word := [3, 9, 1, 8].getD n.toNat 0

/-- A node with such times. -/
def jaggedL1 : L1Source Unit where
  finalized := return ⟨4, 10⟩
  header n := return ⟨n, jaggedTime n⟩
  block n := throw (.notFound s!"l1 block {n}")

theorem jaggedL1_tellsTimes : jaggedL1.TellsTimes jaggedTime := by
  rintro n world header ⟨⟩
  rfl

theorem searches_end_between_neighbours_jaggedL1 :
    (lastAtOrBefore jaggedL1 4 ⟨4, 10⟩).step () = (.ok 2, ()) ∧
      EndsUpTo ⟨4, 10⟩ 4 (Function.update jaggedTime 4 10) 2 ∧
      (firstAtOrAfter jaggedL1 4 ⟨4, 10⟩).step () = (.ok 3, ()) ∧
      StartsFrom ⟨4, 10⟩ 4 (Function.update jaggedTime 4 10) 3 := by
  have hlast : (lastAtOrBefore jaggedL1 4 ⟨4, 10⟩).step () = (.ok 2, ()) := by cbv
  have hfirst : (firstAtOrAfter jaggedL1 4 ⟨4, 10⟩).step () = (.ok 3, ()) := by cbv
  obtain ⟨hends, hstarts⟩ := searches_end_between_neighbours jaggedL1 4 ⟨4, 10⟩ ()
  rw [hlast] at hends
  rw [hfirst] at hstarts
  exact ⟨hlast, hends.found jaggedL1_tellsTimes, hfirst, hstarts.found jaggedL1_tellsTimes⟩

end BatchInbox
