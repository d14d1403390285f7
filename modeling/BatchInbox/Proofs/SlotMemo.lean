import BatchInbox.Proofs.BlobSelection
import BatchInbox.Proofs.Exchanges
import Mathlib.Data.List.Induction

/-!
# Looking blobs up one after the other

The clock of the beacon chain is asked for once, and the sidecars of the last slot are kept.  None of
this shows in what is found: of a node that always answers, and always the same, each look-up gets what
it would get from a node that was never asked before.

A look-up may fail at any point, for its time may be before the first slot, or its blobs may not be in
their slot.  What it has asked for by then is kept all the same, and is complete: the sidecars of a slot
are kept with the number of the slot, or not at all.  So all that a look-up shows of those before it is
in what it still asks.

## What is here

* `BlobCall` — a look-up; `BeaconChain.look` — what it finds, if nothing is kept.
* `BeaconChain.AnsweredBy` — a node that always answers.
* `BlobMemo.after`, `BlobCall.asks` — what is kept behind a look-up, and what it asks;
  `BlobCall.step_fetch`.
* `BlobCall.slot?_of_failure` — a look-up that does not get the sidecars of its slot.
* `Lookups` — what look-ups have left behind; `lookups_afterLookups`.
* `lookups_as_fresh` — what is found, and what is asked.
-/

set_option autoImplicit false
namespace BatchInbox
open Effect (Ensures)

/-! ## Look-ups -/

/-- A look-up of the blobs of hashes, in a block of the given time. -/
structure BlobCall where
  time : Word
  hashes : List Hash
  indices : List Word

namespace BlobCall

/-- Looks the blobs up. -/
def fetch {σ : Type} (source : BlobSource σ) (call : BlobCall) :
    Effect (σ × BlobMemo) ResolveError BlobMap :=
  fetchBlobs source call.time call.hashes call.indices

/-- The slot in which a look-up has to look, if it can be told. -/
def slot? (chain : BeaconChain) (call : BlobCall) : Option Word :=
  if call.hashes.isEmpty then none else (chain.timing.slotAt call.time).toOption

end BlobCall

/-- What a look-up finds in what the chain keeps. -/
def BeaconChain.look (chain : BeaconChain) (call : BlobCall) : Except ResolveError BlobMap :=
  if call.hashes.isEmpty then .ok []
  else
    match chain.timing.slotAt call.time with
    | .error cause => .error (.beaconFetch cause)
    | .ok slot => selectBlobs (chain.sidecars slot) slot [] (withIndices call.hashes call.indices)

/-- The node always answers, and tells what the chain keeps. -/
structure BeaconChain.AnsweredBy {σ : Type} (chain : BeaconChain) (source : BlobSource σ) : Prop where
  timing : ∀ s, (source.timing.step s).1 = .ok chain.timing
  sidecars : ∀ slot s, ((source.sidecars slot).step s).1 = .ok (chain.sidecars slot)

/-- What is kept is what the chain keeps. -/
abbrev BlobMemo.IsOf (chain : BeaconChain) (memo : BlobMemo) : Prop :=
  memo.Knows (· = chain.timing) fun slot found => found = chain.sidecars slot

/-- What is kept behind a look-up. -/
def BlobMemo.after (chain : BeaconChain) (memo : BlobMemo) (call : BlobCall) : BlobMemo where
  timing? := if call.hashes.isEmpty then memo.timing? else some chain.timing
  slot? :=
    match call.slot? chain with
    | none => memo.slot?
    | some slot => some (slot, chain.sidecars slot)

/-- What a look-up asks: the clock if it is not known yet, and the sidecars of its slot if those of
another slot are kept, or none. -/
def BlobCall.asks (chain : BeaconChain) (isTimed : Bool) (kept? : Option Word) (call : BlobCall) :
    List Question :=
  (if call.hashes.isEmpty || isTimed then [] else [.timing]) ++
    match call.slot? chain with
    | none => []
    | some slot => if kept? = some slot then [] else [.sidecars slot]

/-! ## One look-up -/

section
variable {σ : Type} {source : BlobSource σ} {s : σ × BlobMemo} {slot : Word}

/-- Sidecars that are kept are not asked for. -/
theorem step_sidecarsOf_kept {sidecars : List BlobSidecar} (h : s.2.slot? = some (slot, sidecars)) :
    (sidecarsOf source slot).step s = (.ok sidecars, s) := by
  rw [sidecarsOf, Effect.step_bind, Effect.step_get]
  simp only [h, ↓reduceIte]
  rfl

/-- Other sidecars are asked for, and kept if there is an answer. -/
theorem step_sidecarsOf_asked (h : s.2.slot?.map (·.1) ≠ some slot) :
    (sidecarsOf source slot).step s =
      match (source.sidecars slot).step s.1 with
      | (.ok sidecars, w) => (.ok sidecars, w, { s.2 with slot? := some (slot, sidecars) })
      | (.error e, w) => (.error (.beaconFetch e), w, s.2) := by
  have hask : (sidecarsOf source slot).step s = (sidecarsOf.ask source slot).step s := by
    rw [sidecarsOf, Effect.step_bind, Effect.step_get]
    rcases hslot : s.2.slot? with _ | ⟨known, sidecars⟩
    · simp only [hslot]
    · have hother : known ≠ slot := fun hsame => h (by rw [hslot, hsame]; rfl)
      simp only [hslot, if_neg hother]
  rw [hask, sidecarsOf.ask]
  simp only [Effect.step_bind, Effect.step_onFst, Effect.step_mapError]
  rcases (source.sidecars slot).step s.1 with ⟨e | sidecars, w⟩ <;> rfl

/-- Finding the slot of a time does not change the sidecars that are kept. -/
theorem slot?_slotOf {time : Word} {s₁ : σ × BlobMemo}
    (h : (slotOf source time).step s = (.ok slot, s₁)) : s₁.2.slot? = s.2.slot? := by
  have hknown : (knownTiming source).Keeps (fun t => t.2.slot? = s.2.slot?) := by
    refine Ensures.get.bind fun t _ => ?_
    split
    · exact .pure trivial
    · have hasked := (Ensures.of_forall (e := source.timing.mapError ResolveError.beaconFetch)
        fun _ _ _ _ => trivial).onFst (J := fun memo : BlobMemo => memo.slot? = s.2.slot?)
      refine hasked.bind fun timing _ => ?_
      refine (Ensures.modify fun t ht => ?_).bind fun _ _ => .pure trivial
      exact ht
  have hslot : (slotOf source time).Keeps (fun t => t.2.slot? = s.2.slot?) := by
    refine hknown.bind fun timing _ => ?_
    split
    · exact .throw trivial
    · exact .pure trivial
  exact (hslot.of_ok rfl h).2

/-- **Sidecars that cannot be got** leave those that are kept as they are. -/
theorem BlobCall.slot?_of_failure {call : BlobCall} {s₁ : σ × BlobMemo} {e : RpcError}
    (hslot : (slotOf source call.time).step s = (.ok slot, s₁))
    (hfails : ((source.sidecars slot).step s₁.1).1 = .error e) :
    ((call.fetch source).step s).2.2.slot? = s.2.slot? ∧
      (call.hashes ≠ [] → s.2.slot?.map (·.1) ≠ some slot →
        ((call.fetch source).step s).1 = .error (.beaconFetch e)) := by
  have hsame := slot?_slotOf hslot
  cases hempty : call.hashes.isEmpty with
  | true =>
    have hnone := List.isEmpty_iff.1 hempty
    refine ⟨?_, fun hne => absurd hnone hne⟩
    rw [fetch, fetchBlobs, hempty]
    rfl
  | false =>
    rw [fetch, step_fetchBlobs hempty hslot]
    by_cases hkept : s.2.slot?.map (·.1) = some slot
    · obtain ⟨⟨_, sidecars⟩, hmemo, rfl⟩ := Option.map_eq_some_iff.1 hkept
      rw [step_sidecarsOf_kept (hsame.trans hmemo)]
      exact ⟨hsame, fun _ hother => absurd hkept hother⟩
    · rw [step_sidecarsOf_asked (hsame ▸ hkept)]
      rcases hanswer : (source.sidecars slot).step s₁.1 with ⟨e' | sidecars, w⟩ <;>
        rw [hanswer] at hfails
      · cases hfails
        exact ⟨hsame, fun _ _ => rfl⟩
      · cases hfails

end

section
variable {σ : Type} {u : Endpoints σ} {chain : BeaconChain} {call : BlobCall} {memo : BlobMemo}

/-- What is kept behind a look-up is still what the chain keeps. -/
theorem BlobMemo.IsOf.after (h : memo.IsOf chain) (call : BlobCall) :
    (memo.after chain call).IsOf chain where
  timing := by
    intro t ht
    simp only [BlobMemo.after] at ht
    split at ht
    · exact h.timing ht
    · exact (Option.some.inj ht).symm
  sidecars := by
    intro slot found hslot
    simp only [BlobMemo.after] at hslot
    split at hslot
    · exact h.sidecars hslot
    · cases hslot
      rfl

/-- The slot is told from the clock, which is asked for if it is not known. -/
theorem step_slotOf (ha : chain.AnsweredBy u.beacon) {s : Recorded σ × BlobMemo}
    (hs : s.2.IsOf chain) (time : Word) :
    ∃ s', (slotOf u.recorded.beacon time).step s =
        ((chain.timing.slotAt time).mapError .beaconFetch, s',
          { s.2 with timing? := some chain.timing }) ∧
      s'.questions = s.1.questions ++ if s.2.timing?.isSome then [] else [.timing] := by
  have hknown : ∃ s', (knownTiming u.recorded.beacon).step s =
        (.ok chain.timing, s', { s.2 with timing? := some chain.timing }) ∧
      s'.questions = s.1.questions ++ if s.2.timing?.isSome then [] else [.timing] := by
    obtain ⟨s, timing?, slot?⟩ := s
    rw [knownTiming, Effect.step_bind, Effect.step_get]
    cases timing? with
    | some timing =>
      cases hs.timing rfl
      exact ⟨s, rfl, (List.append_nil _).symm⟩
    | none =>
      have hanswer : u.recorded.beacon.timing.step s = _ :=
        Effect.step_recorded .timing u.beacon.timing s
      simp only [Effect.step_bind, Effect.step_onFst, Effect.step_mapError, hanswer, ha.timing]
      exact ⟨_, rfl, List.map_append⟩
  obtain ⟨s', hstep, hasked⟩ := hknown
  refine ⟨s', ?_, hasked⟩
  rw [slotOf, Effect.step_bind, hstep]
  simp only
  cases chain.timing.slotAt time <;> rfl

/-- The sidecars of a slot are those that the chain keeps, and are asked for if they are not kept
here. -/
theorem step_sidecarsOf (ha : chain.AnsweredBy u.beacon) {s : Recorded σ × BlobMemo}
    (hs : s.2.IsOf chain) (slot : Word) :
    ∃ s', (sidecarsOf u.recorded.beacon slot).step s =
        (.ok (chain.sidecars slot), s', { s.2 with slot? := some (slot, chain.sidecars slot) }) ∧
      s'.questions = s.1.questions ++
        if s.2.slot?.map (·.1) = some slot then [] else [.sidecars slot] := by
  by_cases hkept : s.2.slot?.map (·.1) = some slot
  · obtain ⟨⟨_, sidecars⟩, hmemo, rfl⟩ := Option.map_eq_some_iff.1 hkept
    cases hs.sidecars hmemo
    rw [step_sidecarsOf_kept hmemo, if_pos hkept, ← hmemo]
    exact ⟨s.1, rfl, (List.append_nil _).symm⟩
  · have hanswer : (u.recorded.beacon.sidecars slot).step s.1 = _ :=
      Effect.step_recorded (.sidecars slot) (u.beacon.sidecars slot) s.1
    rw [step_sidecarsOf_asked hkept, if_neg hkept, hanswer, ha.sidecars]
    exact ⟨_, rfl, List.map_append⟩

/-- **One look-up** finds what the chain keeps. -/
theorem BlobCall.step_fetch (ha : chain.AnsweredBy u.beacon) {s : Recorded σ × BlobMemo}
    (hs : s.2.IsOf chain) (call : BlobCall) :
    ∃ s', (call.fetch u.recorded.beacon).step s =
        (chain.look call, s', s.2.after chain call) ∧
      s'.questions = s.1.questions ++
        call.asks chain s.2.timing?.isSome (s.2.slot?.map (·.1)) := by
  rw [fetch, BeaconChain.look, BlobMemo.after, asks, slot?]
  cases hempty : call.hashes.isEmpty with
  | true =>
    rw [fetchBlobs, hempty]
    exact ⟨s.1, rfl, (List.append_nil _).symm⟩
  | false =>
    obtain ⟨s₁, hslot, hasked⟩ := step_slotOf ha hs call.time
    simp only [Bool.false_eq_true, ↓reduceIte, Bool.false_or]
    cases hslotAt : chain.timing.slotAt call.time with
    | error cause =>
      rw [hslotAt] at hslot
      refine ⟨s₁, ?_, hasked.trans (congrArg _ (List.append_nil _).symm)⟩
      rw [fetchBlobs, hempty]
      simp only [Bool.false_eq_true, ↓reduceIte, Effect.step_bind, hslot]
      rfl
    | ok slot =>
      rw [hslotAt] at hslot
      have hs₁ : BlobMemo.IsOf chain { s.2 with timing? := some chain.timing } :=
        ⟨fun h => (Option.some.inj h).symm, hs.sidecars⟩
      obtain ⟨s₂, hsidecars, hasked'⟩ := step_sidecarsOf ha (s := (s₁, _)) hs₁ slot
      refine ⟨s₂, ?_, ?_⟩
      · rw [step_fetchBlobs hempty hslot, hsidecars]
        rfl
      · rw [hasked', hasked, List.append_assoc]
        rfl

/-! ## Many look-ups -/

/-- What is left by look-ups, one after the other. -/
def afterLookups (source : BlobSource σ) (s : σ × BlobMemo) (calls : List BlobCall) : σ × BlobMemo :=
  calls.foldl (fun s call => ((call.fetch source).step s).2) s

/-- The slot of the last look-up that had one. -/
def lastSlot? (chain : BeaconChain) (calls : List BlobCall) : Option Word :=
  (calls.filterMap (·.slot? chain)).getLast?

/-- What look-ups have left behind. -/
structure Lookups (chain : BeaconChain) (calls : List BlobCall) (s : Recorded σ × BlobMemo) :
    Prop where
  isOf : s.2.IsOf chain
  timing : s.2.timing?.isSome = calls.any (!·.hashes.isEmpty)
  slot : s.2.slot?.map (·.1) = lastSlot? chain calls
  count : s.1.questions.count .timing = if s.2.timing?.isSome then 1 else 0

theorem lookups_nil (w : σ) : Lookups chain [] ((⟨w, []⟩ : Recorded σ), .empty) where
  isOf := BlobMemo.knows_empty
  timing := rfl
  slot := rfl
  count := rfl

theorem lastSlot?_concat (calls : List BlobCall) (call : BlobCall) :
    lastSlot? chain (calls ++ [call]) = (call.slot? chain).or (lastSlot? chain calls) := by
  rw [lastSlot?, List.filterMap_append, List.getLast?_append, lastSlot?]
  cases hslot : call.slot? chain <;> simp [hslot]

theorem BlobCall.count_asks (isTimed : Bool) (kept? : Option Word) :
    (call.asks chain isTimed kept?).count .timing =
      if call.hashes.isEmpty || isTimed then 0 else 1 := by
  have hsidecars : ∀ slot, (if kept? = some slot then [] else [Question.sidecars slot]).count
      .timing = 0 := by
    intro slot
    split <;> rfl
  rw [asks, List.count_append]
  cases call.slot? chain with
  | none => split <;> rfl
  | some slot =>
    simp only [hsidecars]
    split <;> rfl

/-- One more look-up. -/
theorem Lookups.step (ha : chain.AnsweredBy u.beacon) {calls : List BlobCall}
    {s : Recorded σ × BlobMemo} (hs : Lookups chain calls s) (call : BlobCall) :
    Lookups chain (calls ++ [call]) ((call.fetch u.recorded.beacon).step s).2 := by
  obtain ⟨s', hstep, hasked⟩ := call.step_fetch ha hs.isOf
  rw [hstep]
  refine ⟨hs.isOf.after call, ?_, ?_, ?_⟩
  · rw [List.any_append, ← hs.timing, BlobMemo.after]
    cases hempty : call.hashes.isEmpty <;> simp [hempty]
  · rw [lastSlot?_concat, ← hs.slot, BlobMemo.after]
    cases call.slot? chain <;> rfl
  · rw [hasked, List.count_append, hs.count, call.count_asks, BlobMemo.after]
    cases call.hashes.isEmpty <;> cases s.2.timing? <;> rfl

/-- **What look-ups leave behind.** -/
theorem lookups_afterLookups (ha : chain.AnsweredBy u.beacon) (w : σ) (calls : List BlobCall) :
    Lookups chain calls (afterLookups u.recorded.beacon (⟨w, []⟩, .empty) calls) := by
  induction calls using List.reverseRecOn with
  | nil => exact lookups_nil w
  | append_singleton calls call ih =>
    rw [afterLookups, List.foldl_concat]
    exact ih.step ha call

/-- Writing down what is asked does not change a look-up. -/
theorem BlobCall.step_recorded (call : BlobCall) (s : Recorded σ × BlobMemo) :
    (call.fetch u.beacon).step (s.1.world, s.2) =
      (((call.fetch u.recorded.beacon).step s).1,
        ((call.fetch u.recorded.beacon).step s).2.1.world,
        ((call.fetch u.recorded.beacon).step s).2.2) := by
  have htracks := tracks_fetchBlobs u.alike_recorded call.time call.hashes call.indices s
    (s.1.world, s.2) ⟨rfl, rfl⟩
  obtain ⟨hworld, hmemo⟩ := htracks.states
  exact Prod.ext htracks.alike.eq.symm (Prod.ext (Eq.symm hworld) hmemo.symm)

theorem afterLookups_recorded (s : Recorded σ × BlobMemo) (calls : List BlobCall) :
    afterLookups u.beacon (s.1.world, s.2) calls =
      ((afterLookups u.recorded.beacon s calls).1.world,
        (afterLookups u.recorded.beacon s calls).2) :=
  List.foldl_hom (fun s : Recorded σ × BlobMemo => (s.1.world, s.2)) fun s call =>
    congrArg Prod.snd (call.step_recorded s)

/-- **Look-ups do not show what was looked up before.**  Of a node that always answers, and always the
same, and after any look-ups, even ones that fail:

* a look-up gets what it would get if nothing was kept;
* the clock was asked for once at most;
* the look-up asks for the sidecars of its slot, and once, exactly if the last look-up that had a slot
  had another one.

If the sidecars cannot be got, of whichever node, then those that are kept stay as they are.

Writing down what is asked changes nothing. -/
theorem lookups_as_fresh (ha : chain.AnsweredBy u.beacon) (w w' : σ) (earlier : List BlobCall)
    (call : BlobCall) :
    let s := afterLookups u.recorded.beacon (⟨w, []⟩, .empty) earlier
    let r := (call.fetch u.recorded.beacon).step s
    (call.fetch u.beacon).step (afterLookups u.beacon (w, .empty) earlier) =
        (r.1, r.2.1.world, r.2.2) ∧
      r.1 = ((call.fetch u.beacon).step (w', .empty)).1 ∧
      r.2.1.questions.count .timing ≤ 1 ∧
      r.2.1.questions = s.1.questions ++
        call.asks chain (earlier.any (!·.hashes.isEmpty)) (lastSlot? chain earlier) ∧
      ∀ (source : BlobSource σ) (t t₁ : σ × BlobMemo) (slot : Word) (e : RpcError),
        (slotOf source call.time).step t = (.ok slot, t₁) →
          ((source.sidecars slot).step t₁.1).1 = .error e →
            ((call.fetch source).step t).2.2.slot? = t.2.slot? ∧
              (call.hashes ≠ [] → t.2.slot?.map (·.1) ≠ some slot →
                ((call.fetch source).step t).1 = .error (.beaconFetch e)) := by
  intro s r
  have hs : Lookups chain earlier s := lookups_afterLookups ha w earlier
  obtain ⟨s', hstep, hasked⟩ := call.step_fetch ha hs.isOf
  have hr : r = _ := hstep
  refine ⟨?_, ?_, ?_, ?_, fun source t t₁ slot e => call.slot?_of_failure⟩
  · have hearlier : afterLookups u.beacon (w, .empty) earlier = (s.1.world, s.2) :=
      afterLookups_recorded (⟨w, []⟩, .empty) earlier
    rw [hearlier]
    exact call.step_recorded s
  · obtain ⟨s₀, hfresh, -⟩ := call.step_fetch (s := (⟨w', []⟩, .empty)) ha BlobMemo.knows_empty
    have hrecorded := call.step_recorded (u := u) (⟨w', []⟩, .empty)
    rw [hrecorded, hfresh, hr]
  · rw [(hs.step ha call).count]
    split <;> decide
  · rw [hr, hasked, hs.timing, hs.slot]

end

/-! ### An example

Look-ups before the first slot, without hashes, of a blob that is not at its index, in the same slot
again, and of a blob that is not in its slot. -/

/-- A beacon chain with shuffled sidecars in its first slot. -/
def shuffledBeacon : BeaconChain := ⟨⟨24, 12⟩, fun slot => if slot = 0 then shuffledSidecars else []⟩

/-- The node of the beacon chain.  Nobody asks the execution client. -/
def shuffledNodes : Endpoints Unit where
  l1 := {
    finalized := throw (.status 503 "unavailable")
    header := fun _ => throw (.status 503 "unavailable")
    block := fun _ => throw (.status 503 "unavailable") }
  beacon := shuffledNode
  isCancelled _ := false

/-- A node that has lost its sidecars. -/
def lostSidecars : BlobSource Unit where
  timing := return shuffledBeacon.timing
  sidecars _ := throw (.status 503 "unavailable")

theorem shuffledBeacon_answeredBy : shuffledBeacon.AnsweredBy shuffledNodes.beacon where
  timing _ := rfl
  sidecars _ _ := rfl

/-- The first slot is asked for again once another one was looked at. -/
theorem lookups_as_fresh_shuffled :
    let hash₁ := (zeroSidecar 7 [1]).versionedHash
    let hash₂ := (zeroSidecar 3 [2]).versionedHash
    let earlier : List BlobCall :=
      [⟨20, [hash₁], []⟩, ⟨30, [], []⟩, ⟨30, [hash₂], [7]⟩, ⟨35, [hash₁], []⟩, ⟨40, [hash₁], []⟩]
    let call : BlobCall := ⟨35, [hash₁], []⟩
    let s := afterLookups shuffledNodes.recorded.beacon (⟨(), []⟩, .empty) earlier
    let r := (call.fetch shuffledNodes.recorded.beacon).step s
    let lost := (call.fetch lostSidecars).step ((), ⟨none, some (1, [])⟩)
    s.1.questions = [.timing, .sidecars 0, .sidecars 1] ∧
      r.1 = ((call.fetch shuffledNodes.beacon).step ((), .empty)).1 ∧
      r.2.1.questions = [.timing, .sidecars 0, .sidecars 1, .sidecars 0] ∧
      lost.1 = .error (.beaconFetch (.status 503 "unavailable")) ∧
      lost.2.2.slot? = some (1, []) := by
  intro hash₁ hash₂ earlier call s r lost
  obtain ⟨-, hfresh, -, hasked, hlost⟩ :=
    lookups_as_fresh shuffledBeacon_answeredBy () () earlier call
  have hearlier : s.1.questions = [.timing, .sidecars 0, .sidecars 1] := by decide +kernel
  have hslot : (slotOf lostSidecars 35).step ((), ⟨none, some (1, [])⟩) =
      (.ok 0, (), ⟨some shuffledBeacon.timing, some (1, [])⟩) := rfl
  obtain ⟨hkept, herror⟩ := hlost lostSidecars _ _ 0 _ hslot rfl
  refine ⟨hearlier, hfresh, ?_, herror (List.cons_ne_nil _ _) (by decide), hkept⟩
  have hasks : r.2.1.questions = s.1.questions ++ _ := hasked
  rw [hasks, hearlier]
  decide +kernel

end BatchInbox
