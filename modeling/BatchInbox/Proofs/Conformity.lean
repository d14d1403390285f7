import BatchInbox.Proofs.Unpacking

/-!
# Zstd under stronger and weaker rules

Two consumers may decompress the same zstd data differently, since a frame is held to other rules
when all of its content fits into a read.  But rules only refuse data: what is let through by the
stronger of two checks is let through by the weaker one, and comes out the same.  So there is one
content, the one under the weakest rules, and a consumer gets it, or a report that it is too large,
or finds the data corrupt.  Data whose frames keep the strongest rules is not found corrupt.

## What is here

* `Allows` — a computation that gives all that another one gives; `Allows.check`, `Allows.bind` and
  their like for its parts.
* `Zstd.Rules.Laxer`, `FrameState.Laxer`, `State.Laxer` — weaker rules, and the same place in the
  data under them.
* `Zstd.advance_allows` — a step under stronger rules is one under weaker rules.
* `Zstd.content?` — the content of data that keeps given rules; `Zstd.Conforms` is data that keeps
  the strongest ones.
* `Zstd.run_of_conforms`, `Zstd.run_of_content`, `Zstd.content_of_run` — what a consumer's run has
  to do with the contents under the strongest and the weakest rules.
* `Zstd.decompress_of_ok` — what a limit that is kept says of other limits.
-/

set_option autoImplicit false
namespace BatchInbox

/-! ## Computations that give more -/

/-- Whatever `x` gives, `y` gives something that `R` relates to it. -/
structure Allows {ε α β : Type} (R : α → β → Prop) (x : Except ε α) (y : Except ε β) :
    Prop where
  gives : ∀ a, x = .ok a → ∃ b, y = .ok b ∧ R a b

namespace Allows
variable {ε α β γ δ : Type} {R : α → β → Prop} {S : γ → δ → Prop}

theorem refl (x : Except ε α) : Allows Eq x x := ⟨fun a h => ⟨a, h, rfl⟩⟩

theorem ok {a : α} {b : β} (h : R a b) : Allows R (.ok a : Except ε α) (.ok b) := by
  constructor
  intro a' ha'
  cases ha'
  exact ⟨b, rfl, h⟩

theorem error {e : ε} {y : Except ε β} : Allows R (.error e) y := by
  constructor
  intro a ha
  cases ha

/-- A check that lets more through. -/
theorem check {p q : Prop} [Decidable p] [Decidable q] {x : Except ε α} {y : Except ε β} {e e' : ε}
    (hqp : q → p) (h : ¬ p → Allows R x y) :
    Allows R (if p then .error e else x) (if q then .error e' else y) := by
  by_cases hp : p
  · rw [if_pos hp]
    exact error
  · rw [if_neg hp, if_neg (mt hqp hp)]
    exact h hp

theorem bind {x : Except ε α} {y : Except ε β} {f : α → Except ε γ} {g : β → Except ε δ}
    (h : Allows R x y) (hf : ∀ a b, R a b → Allows S (f a) (g b)) :
    Allows S (x >>= f) (y >>= g) := by
  constructor
  intro c hc
  rcases x with e | a
  · cases hc
  · obtain ⟨b, rfl, hab⟩ := h.gives a rfl
    exact (hf a b hab).gives c hc

end Allows

namespace Zstd

/-! ## Blocks -/

theorem readLiterals_allows (block : ByteArray) {maxSize maxSize' : Nat} (memory : Memory)
    (hle : maxSize ≤ maxSize') :
    Allows Eq (readLiterals block maxSize memory) (readLiterals block maxSize' memory) := by
  simp only [readLiterals, bind, Except.bind, pure, Except.pure]
  refine .check id fun _ => ?_
  have hsize : ∀ {n : Nat}, maxSize' < n → maxSize < n := fun h => Nat.lt_of_le_of_lt hle h
  rcases Bits.field block 0 2 with _ | _ | kind
  · refine .check (fun h => ?_) fun _ => .refl _
    simp only [Bool.or_eq_true, decide_eq_true_eq] at h ⊢
    exact h.imp_left hsize
  · refine .check (fun h => ?_) fun _ => .refl _
    simp only [Bool.or_eq_true, decide_eq_true_eq] at h ⊢
    exact h.imp_left hsize
  · refine .check id fun _ => .check (fun h => ?_) fun _ => .refl _
    simp only [Bool.or_eq_true, decide_eq_true_eq] at h ⊢
    exact h.imp_left (Or.imp_left hsize)

theorem readSequences_allows {room room' : Nat} (hle : room ≤ room')
    (tables : FseTable × FseTable × FseTable) (literals : ByteArray) (start : Nat)
    (count used : Nat) (states : States) (offsets : Nat × Nat × Nat) (out data : ByteArray)
    (left : Nat) :
    Allows Eq (readSequences tables literals start room count used states offsets out data left)
      (readSequences tables literals start room' count used states offsets out data left) := by
  induction count generalizing used states offsets out left with
  | zero => exact .refl _
  | succ count ih =>
    simp only [readSequences]
    split
    · exact .error
    split
    · exact .error
    split
    · exact .error
    split
    · exact .error
    refine .check (Nat.lt_of_le_of_lt hle) fun _ => ?_
    split
    · exact .refl _
    split
    · exact .error
    · exact ih ..

theorem BackBits.runAll_allows {α : Type} {reader reader' : BackBits α} {stream : ByteArray}
    (h : ∀ left, Allows Eq (reader stream left) (reader' stream left)) :
    Allows Eq (reader.runAll stream) (reader'.runAll stream) := by
  constructor
  intro a ha
  obtain ⟨left, hleft, hread⟩ := runAll_eq_ok.1 ha
  obtain ⟨_, hread', rfl⟩ := (h left).gives _ hread
  exact ⟨a, runAll_eq_ok.2 ⟨left, hleft, hread'⟩, rfl⟩

theorem readAllSequences_allows {room room' : Nat} (hle : room ≤ room')
    (tables : FseTable × FseTable × FseTable) (literals : ByteArray) (start count : Nat)
    (offsets : Nat × Nat × Nat) (out stream : ByteArray) (left : Nat) :
    Allows Eq (readAllSequences tables literals start room count offsets out stream left)
      (readAllSequences tables literals start room' count offsets out stream left) := by
  refine .bind (.refl _) ?_
  rintro ⟨literal, left⟩ _ rfl
  refine .bind (.refl _) ?_
  rintro ⟨offset, left⟩ _ rfl
  refine .bind (.refl _) ?_
  rintro ⟨length, left⟩ _ rfl
  exact readSequences_allows hle ..

/-- A compressed block that may hold more. -/
theorem readBlock_allows (block : ByteArray) {maxSize maxSize' : Nat} (start : Nat)
    (memory : Memory) (out : ByteArray) (hle : maxSize ≤ maxSize') :
    Allows Eq (readBlock block maxSize start memory out)
      (readBlock block maxSize' start memory out) := by
  have hroom : out.size + maxSize ≤ out.size + maxSize' := Nat.add_le_add_left hle _
  simp only [readBlock]
  refine .check id fun _ => ?_
  refine .bind (readLiterals_allows block memory (by omega)) ?_
  rintro literals _ rfl
  refine .bind (.refl _) ?_
  rintro ⟨count, position⟩ _ rfl
  split
  · exact .refl _
  refine .bind (.refl _) ?_
  rintro ⟨tables, position⟩ _ rfl
  refine .bind (BackBits.runAll_allows fun _ => readAllSequences_allows hroom ..) ?_
  rintro ⟨out', used, offsets⟩ _ rfl
  exact .check (Nat.lt_of_le_of_lt hroom) fun _ => .refl _

/-! ## Frames -/

/-- The other rules refuse less. -/
structure Rules.Laxer (r r' : Rules) : Prop where
  bounded : r'.bounded = true → r.bounded = true
  whole : r'.whole = true → r.whole = true

/-- The other frame is held to weaker rules, and is the same otherwise. -/
structure FrameState.Laxer (f g : FrameState) : Prop where
  maxBlock : f.maxBlock ≤ g.maxBlock
  maxCoded : f.maxCoded ≤ g.maxCoded
  isWhole : g.isWhole = true → f.isWhole = true
  contentSize : g.contentSize = f.contentSize
  hasChecksum : g.hasChecksum = f.hasChecksum
  start : g.start = f.start
  memory : g.memory = f.memory

theorem FrameState.Laxer.after {f g : FrameState} (h : f.Laxer g) (memory : Memory) :
    Laxer { f with memory } { g with memory } :=
  { h with memory := rfl }

/-- The same place in the data, in a frame that is held to weaker rules. -/
inductive Phase.Laxer : Phase → Phase → Prop where
  | between : Laxer .between .between
  | inside {f g : FrameState} (h : f.Laxer g) : Laxer (.inside f) (.inside g)
  | closing {f g : FrameState} (h : f.Laxer g) : Laxer (.closing f) (.closing g)

structure State.Laxer (s t : State) : Prop where
  pos : t.pos = s.pos
  out : t.out = s.out
  phase : s.phase.Laxer t.phase

theorem frame?_allows (h : Header) {r r' : Rules} (hr : r.Laxer r') (start : Nat) :
    Allows FrameState.Laxer (h.frame? r start) (h.frame? r' start) := by
  simp only [Header.frame?]
  by_cases hbounded' : r'.bounded = true
  · rw [if_pos hbounded', if_pos (hr.bounded hbounded')]
    exact .check id fun _ => .ok ⟨Nat.le_refl _, Nat.le_refl _, hr.whole, rfl, rfl, rfl, rfl⟩
  rw [if_neg hbounded']
  by_cases hbounded : r.bounded = true
  · rw [if_pos hbounded]
    by_cases hwindow : maxWindow < h.window
    · rw [if_pos hwindow]
      exact .error
    · rw [if_neg hwindow]
      refine .ok ⟨Nat.le_max_left _ _, ?_, hr.whole, rfl, rfl, rfl, rfl⟩
      exact Nat.le_trans (Nat.le_max_left _ _) (Nat.le_max_right _ _)
  · rw [if_neg hbounded]
    exact .ok ⟨Nat.le_refl _, Nat.le_refl _, hr.whole, rfl, rfl, rfl, rfl⟩

variable {rules rules' : Header → Nat → Rules}

theorem enterFrame_allows (data : ByteArray) (hrules : ∀ h pos, (rules h pos).Laxer (rules' h pos))
    (pos : Nat) (out : ByteArray) :
    Allows State.Laxer (enterFrame data rules pos out) (enterFrame data rules' pos out) := by
  simp only [enterFrame]
  refine .check id fun _ => ?_
  split
  · rcases readHeader data (pos + 4) with cause | ⟨header, stop⟩
    · exact .error
    · simp only
      have hframe := frame?_allows header (hrules header stop) out.size
      rcases hf : header.frame? (rules header stop) out.size with cause | f
      · exact .error
      · obtain ⟨g, hg, hfg⟩ := hframe.gives f hf
        rw [hg]
        exact .ok ⟨rfl, rfl, .inside hfg⟩
  · split
    · exact .check id fun _ => .ok ⟨rfl, rfl, .between⟩
    · exact .error

/-- Nothing is a compressed block without bytes. -/
theorem readBlock_of_size_lt {block : ByteArray} (h : block.size < 2) (maxSize start : Nat)
    (memory : Memory) (out : ByteArray) :
    readBlock block maxSize start memory out = .error .invalid := by
  simp only [readBlock, readLiterals]
  rw [if_neg (by simp only [maxBlockSize]; omega), if_pos h]
  rfl

variable {f g : FrameState}

theorem takeContent_allows (hfg : f.Laxer g) (data : ByteArray) (pos kind size coded : Nat)
    (out : ByteArray) :
    Allows Eq (takeContent data f pos kind size coded out)
      (takeContent data g pos kind size coded out) := by
  simp only [takeContent, hfg.memory, hfg.start]
  refine .check (Nat.lt_of_le_of_lt hfg.maxCoded) fun _ => .check id fun _ => ?_
  split
  · exact .refl _
  · exact .check (Nat.lt_of_le_of_lt hfg.maxBlock) fun _ => .refl _
  · by_cases hsize : size = 0
    · -- a frame under stronger rules may refuse an empty block that means nothing to the other one
      subst hsize
      have hempty : (data.extract pos (pos + 0)).size < 2 := by simp
      simp only [readBlock_of_size_lt hempty, decide_true, Bool.true_and]
      cases hf : f.isWhole with
      | true => exact .error
      | false =>
        have hg : g.isWhole = false := by
          rw [← Bool.not_eq_true] at hf ⊢
          exact mt hfg.isWhole hf
        rw [hg]
        exact .refl _
    · simp only [hsize, decide_false, Bool.false_and, Bool.false_eq_true, if_false]
      exact readBlock_allows _ _ _ _ hfg.maxBlock
  · exact .error

/-- The data has all of a block whose content it gives. -/
theorem stop_le_of_takeContent {data out : ByteArray} {pos kind size coded : Nat}
    {result : ByteArray × Memory} (h : takeContent data f pos kind size coded out = .ok result) :
    pos + coded ≤ data.size := by
  simp only [takeContent] at h
  split at h
  · cases h
  split at h
  · cases h
  · rename_i hstop
    exact Nat.le_of_not_lt hstop

theorem takeBlock_allows (hfg : f.Laxer g) (data : ByteArray) (pos : Nat) (out : ByteArray) :
    Allows State.Laxer (takeBlock data f pos out) (takeBlock data g pos out) := by
  simp only [takeBlock]
  refine .check id fun _ => ?_
  rcases hheader : readBlockHeader data pos with ⟨last, kind, size, coded⟩
  have hplain : kind = 0 → coded = size := by
    simp only [readBlockHeader, Prod.mk.injEq] at hheader
    obtain ⟨-, rfl, rfl, rfl⟩ := hheader
    intro hkind
    rw [if_neg (by omega)]
  simp only [Bool.and_eq_true, decide_eq_true_eq]
  split
  · rename_i hcut
    rw [if_pos ⟨⟨⟨hcut.1.1.1, Nat.le_trans hcut.1.1.2 hfg.maxCoded⟩, hcut.1.2⟩, hcut.2⟩]
    exact .ok ⟨rfl, rfl, .inside hfg⟩
  rcases hf : takeContent data f (pos + 3) kind size coded out with cause | ⟨out', memory⟩
  · exact .error
  -- the data has all of the block, so the other frame does not go on with a part of it
  have hall := stop_le_of_takeContent hf
  rw [if_neg (by rintro ⟨⟨⟨hkind, -⟩, -⟩, hcut⟩; rw [hplain hkind] at hall; omega)]
  obtain ⟨_, hg, rfl⟩ := (takeContent_allows hfg data (pos + 3) kind size coded out).gives _ hf
  simp only [hg, Bool.or_eq_true]
  refine .check (fun h => ?_) fun _ => ?_
  · rwa [hfg.contentSize, hfg.start] at h
  split
  · refine .check (fun h => ?_) fun _ => .ok ⟨rfl, rfl, .closing (hfg.after memory)⟩
    rw [hfg.contentSize, hfg.start] at h
    exact h.imp_left (Or.imp_left hfg.isWhole)
  · exact .ok ⟨rfl, rfl, .inside (hfg.after memory)⟩

theorem leaveFrame_allows (hfg : f.Laxer g) (data : ByteArray) (pos : Nat) (out : ByteArray) :
    Allows State.Laxer (leaveFrame data pos f out) (leaveFrame data pos g out) := by
  simp only [leaveFrame, hfg.hasChecksum, hfg.start]
  split
  · refine .check id fun _ => ?_
    split
    · exact .ok ⟨rfl, rfl, .between⟩
    · exact .error
  · exact .ok ⟨rfl, rfl, .between⟩

/-- **A step under stronger rules** is one under weaker rules. -/
theorem advance_allows (data : ByteArray) (hrules : ∀ h pos, (rules h pos).Laxer (rules' h pos))
    {s t : State} (hst : s.Laxer t) :
    Allows State.Laxer (advance data rules s) (advance data rules' t) := by
  rcases s with ⟨pos, out, phase⟩
  rcases t with ⟨pos', out', phase'⟩
  obtain ⟨rfl, rfl, hphase⟩ := hst
  cases hphase with
  | between => exact enterFrame_allows data hrules _ _
  | inside hfg => exact takeBlock_allows hfg data _ _
  | closing hfg => exact leaveFrame_allows hfg data _ _

theorem State.Laxer.isFinal {s t : State} (hst : s.Laxer t) (data : ByteArray) :
    t.isFinal data = s.isFinal data := by
  rcases s with ⟨pos, out, phase⟩
  rcases t with ⟨pos', out', phase'⟩
  obtain ⟨rfl, rfl, hphase⟩ := hst
  cases hphase <;> rfl

/-! ## Contents -/

/-- The rules of both ways to decompress a frame. -/
def strictRules (h : Header) (_pos : Nat) : Rules := ⟨true, h.contentSize.isSome⟩

/-- What both ways to decompress a frame ask of it. -/
def looseRules (_h : Header) (_pos : Nat) : Rules := ⟨false, false⟩

/-- The content of the data from a state on, if its frames keep the rules. -/
def content? (data : ByteArray) (rules : Header → Nat → Rules) :
    (rounds : Nat) → State → Option ByteArray
  | 0, _ => none
  | rounds + 1, s =>
    if s.isFinal data then some s.out
    else
      match advance data rules s with
      | .error _ => none
      | .ok s => content? data rules rounds s

/-- All frames keep the rules of both ways to decompress them. -/
def Conforms (data : ByteArray) : Prop :=
  (content? data strictRules (2 * data.size + 4) Reader.start.state).isSome

instance : DecidablePred Conforms :=
  fun data => inferInstanceAs (Decidable ((content? data strictRules _ _).isSome = true))

theorem laxer_rulesIn (data : ByteArray) (room : Nat) (h : Header) (pos : Nat) :
    (strictRules h pos).Laxer (rulesIn data room h pos) := by
  refine ⟨fun _ => rfl, fun hwhole => ?_⟩
  rcases hsize : h.contentSize with _ | size
  · rw [rulesIn, hsize] at hwhole
    cases hwhole
  · rw [strictRules, hsize]
    rfl

theorem rulesIn_laxer (data : ByteArray) (room : Nat) (h : Header) (pos : Nat) :
    (rulesIn data room h pos).Laxer (looseRules h pos) :=
  ⟨nofun, nofun⟩

/-- **What has a content** is at the end of all frames, or goes on to what has it. -/
theorem content_cases {data content : ByteArray} {rounds : Nat} {s : State}
    (h : content? data rules (rounds + 1) s = some content) :
    (s.isFinal data = true ∧ content = s.out) ∨
      (¬ s.isFinal data = true ∧
        ∃ t, advance data rules s = .ok t ∧ content? data rules rounds t = some content) := by
  rw [content?] at h
  split at h
  · rename_i hfinal
    cases h
    exact .inl ⟨hfinal, rfl⟩
  · rename_i hfinal
    rcases hadvance : advance data rules s with cause | t <;> rw [hadvance] at h
    · cases h
    · exact .inr ⟨hfinal, t, rfl, h⟩

/-- The content begins with what a state has of it. -/
theorem size_le_of_content {data content : ByteArray} {rounds : Nat} {s : State}
    (h : content? data rules rounds s = some content) : s.out.size ≤ content.size := by
  induction rounds generalizing s with
  | zero => cases h
  | succ rounds ih =>
    obtain ⟨-, rfl⟩ | ⟨-, t, ht, hrest⟩ := content_cases h
    · exact Nat.le_refl _
    · exact Nat.le_trans (size_le_advance ht) (ih hrest)

/-! ## Reads of the consumer -/

theorem Reading.start_flush_le (size rounds : Nat) (r : Reading) :
    (r.flush size rounds).start ≤ size := by
  induction rounds generalizing r with
  | zero => exact Nat.le_refl _
  | succ rounds ih =>
    rw [Reading.flush]
    split
    · exact ih _
    · exact Nat.le_refl _

/-- A read begins with output that is there. -/
theorem Reading.start_follow_le {r : Reading} {s : State} (h : r.start ≤ s.out.size) :
    (r.follow s).start ≤ s.out.size := by
  have hflush : (if r.start + r.room < s.out.size then r.flush s.out.size s.out.size
      else r).start ≤ s.out.size := by
    split
    · exact start_flush_le _ _ _
    · exact h
  simp only [Reading.follow]
  split
  · generalize (if r.start + r.room < s.out.size then r.flush s.out.size s.out.size else r) = r'
      at hflush ⊢
    split
    · exact Nat.le_refl _
    · exact hflush
  · exact hflush

/-! ## Runs -/

open Unpacker (fit)
variable {data content : ByteArray} {limit rounds : Nat} {s : State} {r : Reader}

theorem step_of_advance {t : State} (hfinal : ¬ r.state.isFinal data = true)
    (h : advance data (rulesIn data (r.reading.left limit r.state.out.size)) r.state = .ok t) :
    (unpacker data limit).step r = .more ⟨t, r.reading.follow t⟩ := by
  simp only [unpacker, Reader.advance, h]
  exact if_neg hfinal

/-- The end of all frames. -/
theorem run_of_isFinal (h : r.state.isFinal data = true) :
    (unpacker data limit).run limit (rounds + 1) r = fit r.state.out limit := by
  rw [Unpacker.run, show (unpacker data limit).step r = .done r from if_pos h]
  rfl

/-- The current read began with output that is there. -/
def Reader.Begun (r : Reader) : Prop := r.reading.start ≤ r.state.out.size

theorem Reader.Begun.follow {t : State} (h : r.Begun)
    (ht : Zstd.advance data rules r.state = .ok t) : Begun ⟨t, r.reading.follow t⟩ :=
  Reading.start_follow_le (Nat.le_trans h (size_le_advance ht))

/-- A run goes on, unless there is too much output already. -/
theorem run_of_advance {t : State} (hfinal : ¬ r.state.isFinal data = true) (hread : r.Begun)
    (h : advance data (rulesIn data (r.reading.left limit r.state.out.size)) r.state = .ok t) :
    (unpacker data limit).run limit (rounds + 1) r = .error .tooLarge ∧ limit < t.out.size ∨
      (unpacker data limit).run limit (rounds + 1) r =
        (unpacker data limit).run limit rounds ⟨t, r.reading.follow t⟩ := by
  have hnext : (r.reading.follow t).start ≤ t.out.size := hread.follow h
  have hrun : (unpacker data limit).run limit (rounds + 1) r =
      if limit < max (r.reading.follow t).start (t.out.size - 1) then .error .tooLarge
      else (unpacker data limit).run limit rounds ⟨t, r.reading.follow t⟩ := by
    rw [Unpacker.run, step_of_advance hfinal h]
    rfl
  rw [hrun]
  split
  · exact .inl ⟨rfl, by omega⟩
  · exact .inr rfl

/-- Corrupt data is found corrupt, unless there is too much output already. -/
theorem run_of_error {cause : Corruption} (hfinal : ¬ r.state.isFinal data = true)
    (h : advance data (rulesIn data (r.reading.left limit r.state.out.size)) r.state =
      .error cause) :
    (unpacker data limit).run limit (rounds + 1) r = .error .tooLarge ∧ limit < r.state.out.size ∨
      (unpacker data limit).run limit (rounds + 1) r = .error (.corrupt cause) := by
  have hstep : (unpacker data limit).step r = .ofStep r.state.out.size (.error cause) := by
    simp only [unpacker, Reader.advance, h]
    exact if_neg hfinal
  rw [Unpacker.run, hstep]
  cases cause with
  | truncated =>
    simp only [Progress.ofStep]
    split
    · exact .inl ⟨rfl, ‹_›⟩
    · exact .inr rfl
  | invalid => exact .inr rfl
  | checksum => exact .inr rfl

/-- **A run over data that keeps the strongest rules** gives its content, if it is not too large. -/
theorem run_of_conforms (h : content? data strictRules rounds s = some content)
    (hsr : s.Laxer r.state) (hread : r.Begun) :
    (unpacker data limit).run limit rounds r = fit content limit := by
  induction rounds generalizing s r with
  | zero => cases h
  | succ rounds ih =>
    obtain ⟨hfinal, rfl⟩ | ⟨hfinal, s', hs, hrest⟩ := content_cases h
    · rw [run_of_isFinal ((hsr.isFinal data).trans hfinal), hsr.out]
    rw [← hsr.isFinal data] at hfinal
    obtain ⟨t, ht, hst⟩ := (advance_allows data (laxer_rulesIn data _) hsr).gives _ hs
    have hsize : t.out.size ≤ content.size := hst.out ▸ size_le_of_content hrest
    obtain ⟨hrun, hlt⟩ | hrun := run_of_advance hfinal hread ht
    · rw [hrun, fit, if_pos (Nat.lt_of_lt_of_le hlt hsize)]
    · rw [hrun]
      exact ih hrest hst (hread.follow ht)

/-- **A run that gives something** gives the content under the weakest rules. -/
theorem content_of_run (h : (unpacker data limit).run limit rounds r = .ok content)
    (hrs : r.state.Laxer s) (hread : r.Begun) :
    content? data looseRules rounds s = some content := by
  induction rounds generalizing s r with
  | zero => cases h
  | succ rounds ih =>
    rw [content?, hrs.isFinal data]
    split
    · rename_i hfinal
      rw [run_of_isFinal hfinal, fit] at h
      split at h
      · cases h
      · cases h
        rw [hrs.out]
    · rename_i hfinal
      rcases ht : advance data (rulesIn data (r.reading.left limit r.state.out.size)) r.state with
        cause | t
      · obtain ⟨hrun, -⟩ | hrun := run_of_error hfinal ht
        · cases hrun.symm.trans h
        · cases hrun.symm.trans h
      obtain ⟨hrun, -⟩ | hrun := run_of_advance hfinal hread ht
      · cases hrun.symm.trans h
      obtain ⟨s', hs, hts⟩ := (advance_allows data (rulesIn_laxer data _) hrs).gives _ ht
      rw [hs]
      exact ih (hrun.symm.trans h) hts (hread.follow ht)

/-- **A run over any data** gives the content under the weakest rules, if it is not too large, or
finds the data corrupt. -/
theorem run_of_content (h : content? data looseRules rounds s = some content)
    (hrs : r.state.Laxer s) (hread : r.Begun) :
    (unpacker data limit).run limit rounds r = fit content limit ∨
      ∃ cause, (unpacker data limit).run limit rounds r = .error (.corrupt cause) := by
  induction rounds generalizing s r with
  | zero => cases h
  | succ rounds ih =>
    have hbefore : r.state.out.size ≤ content.size := hrs.out ▸ size_le_of_content h
    obtain ⟨hfinal, rfl⟩ | ⟨hfinal, s', hs, hrest⟩ := content_cases h
    · rw [run_of_isFinal ((hrs.isFinal data).symm.trans hfinal), hrs.out]
      exact .inl rfl
    rw [hrs.isFinal data] at hfinal
    rcases ht : advance data (rulesIn data (r.reading.left limit r.state.out.size)) r.state with
      cause | t
    · obtain ⟨hrun, hlt⟩ | hrun := run_of_error hfinal ht
      · rw [hrun, fit, if_pos (Nat.lt_of_lt_of_le hlt hbefore)]
        exact .inl rfl
      · exact .inr ⟨cause, hrun⟩
    obtain ⟨_, hs', hts⟩ := (advance_allows data (rulesIn_laxer data _) hrs).gives _ ht
    obtain rfl := Except.ok.inj (hs.symm.trans hs')
    have hsize : t.out.size ≤ content.size := hts.out ▸ size_le_of_content hrest
    obtain ⟨hrun, hlt⟩ | hrun := run_of_advance hfinal hread ht
    · rw [hrun, fit, if_pos (Nat.lt_of_lt_of_le hlt hsize)]
      exact .inl rfl
    · rw [hrun]
      exact ih hrest hts (hread.follow ht)

theorem State.Laxer.refl_start : Reader.start.state.Laxer Reader.start.state :=
  ⟨rfl, rfl, .between⟩

/-- **One content for all limits**: what is given at one limit is given at any other one, if it is
not too large, or the data is found corrupt; only data that breaks a rule is. -/
theorem decompress_of_ok (h : decompress data limit = .ok content) (limit' : Nat) :
    (decompress data limit' = fit content limit' ∨
      ∃ cause, decompress data limit' = .error (.corrupt cause)) ∧
    (Conforms data → decompress data limit' = fit content limit') := by
  have hloose := content_of_run h .refl_start (Nat.le_refl _)
  refine ⟨run_of_content hloose .refl_start (Nat.le_refl _), fun hconforms => ?_⟩
  obtain ⟨content', hstrict⟩ := Option.isSome_iff_exists.1 hconforms
  have hfit : decompress data limit = fit content' limit :=
    run_of_conforms hstrict .refl_start (Nat.le_refl _)
  obtain rfl : content' = content := by
    rw [hfit, fit] at h
    split at h
    · cases h
    · exact Except.ok.inj h
  exact run_of_conforms hstrict .refl_start (Nat.le_refl _)

end Zstd
end BatchInbox
