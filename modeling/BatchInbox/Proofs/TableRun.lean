import BatchInbox.Proofs.Journal

/-!
# Runs of the table

The intake uses the table of channels with care: it gives frames in the order of their blocks, and it
checks for timeouts whenever it reaches a block.  The table itself takes whatever it is asked, in any
order and with any arguments, and what it keeps, it keeps under all of these.

## What is here

* `OpenChannel.Answer` — all that an open channel can make of a frame, and why.
* `ChannelTable.Call` — something asked of the table; `after` and `receipts` are what a run leaves.
* `ChannelTable.IsKept` — what single calls keep; `IsKept.after` — every run keeps it.
-/

set_option autoImplicit false
namespace BatchInbox

namespace OpenChannel

/-- What an open channel makes of a frame.  It has one with its number already, or it knows the last
number and the frame is another last one, or comes behind it.  Otherwise the frame is taken. -/
inductive Answer (c : OpenChannel) (f : Frame) : Except ChannelError OpenChannel → Prop
  | duplicate {g : Frame} (hg : g ∈ c.frames) (hnumber : g.number = f.number) :
      Answer c f (.error (.duplicateFrame f.number))
  | secondLast {last : UInt16} (hlast : c.last? = some last) (hf : f.isLast = true) :
      Answer c f (.error (.secondLast last))
  | behindLast {last : UInt16} (hlast : c.last? = some last) (hlt : last < f.number) :
      Answer c f (.error (.frameAfterLast f.number last))
  | last (hfresh : ∀ g ∈ c.frames, g.number ≠ f.number) (hlast : c.last? = none)
      (hf : f.isLast = true) :
      Answer c f (.ok
        { c with
          frames := insertFrame f (c.frames.filter (·.number < f.number))
          last? := some f.number })
  | inner (hfresh : ∀ g ∈ c.frames, g.number ≠ f.number)
      (hle : ∀ last, c.last? = some last → f.number ≤ last) (hf : f.isLast = false) :
      Answer c f (.ok { c with frames := insertFrame f c.frames })

theorem answer_add (c : OpenChannel) (f : Frame) : c.Answer f (c.add f) := by
  rw [add]
  split
  · rename_i hduplicate
    obtain ⟨g, hg, hnumber⟩ := List.any_eq_true.1 hduplicate
    exact .duplicate hg (of_decide_eq_true hnumber)
  · rename_i hduplicate
    have hfresh : ∀ g ∈ c.frames, g.number ≠ f.number := fun g hg hnumber =>
      hduplicate (List.any_eq_true.2 ⟨g, hg, decide_eq_true hnumber⟩)
    split
    · rename_i last hlast
      split
      · rename_i hf
        exact .secondLast hlast hf
      · rename_i hf
        split
        · rename_i hlt
          exact .behindLast hlast hlt
        · rename_i hle
          refine .inner hfresh (fun last' hlast' => ?_) (Bool.not_eq_true _ ▸ hf)
          cases hlast.symm.trans hlast'
          exact UInt16.not_lt.1 hle
    · rename_i hlast
      split
      · rename_i hf
        exact .last hfresh hlast hf
      · rename_i hf
        refine .inner hfresh (fun last hsome => ?_) (Bool.not_eq_true _ ▸ hf)
        cases hlast.symm.trans hsome

end OpenChannel

namespace ChannelTable
open Intake (Receipt)

/-! ## Runs -/

/-- Something that is asked of the table. -/
inductive Call where
  /-- To take a frame. -/
  | add (f : Frame) (source : L1Position)
  /-- To check for timeouts at a block. -/
  | expire (block : Word)
  /-- To give up all channels. -/
  | finish (block : Word)

namespace Call

/-- The table when it has done what is asked. -/
def run (t : ChannelTable) : Call → ChannelTable
  | add f source => (t.add f source).2
  | expire block => (t.expire block).2
  | finish block => (t.finish block).2

/-- The receipt of a frame. -/
def receipts (t : ChannelTable) : Call → List Receipt
  | add f source => [.of t f source]
  | expire _ | finish _ => []

end Call

/-- The table when it has done all that is asked. -/
def after (t : ChannelTable) (calls : List Call) : ChannelTable := calls.foldl Call.run t

/-- The receipts of all frames of a run. -/
def receipts (t : ChannelTable) : List Call → List Receipt
  | [] => []
  | call :: calls => call.receipts t ++ receipts (call.run t) calls

theorem receipts_append (t : ChannelTable) (calls calls' : List Call) :
    t.receipts (calls ++ calls') = t.receipts calls ++ (t.after calls).receipts calls' := by
  induction calls generalizing t with
  | nil => rfl
  | cons call calls ih =>
    rw [List.cons_append, receipts, receipts, ih, List.append_assoc]
    rfl

theorem IsAscending.run {t : ChannelTable} (h : t.IsAscending) (call : Call) :
    (call.run t).IsAscending := by
  cases call with
  | add f source => exact h.add f source
  | expire block => exact h.expire block
  | finish block => exact isAscending_new t.timeout

/-- Every run leaves the table in the order of the ids. -/
theorem IsAscending.after {t : ChannelTable} (h : t.IsAscending) (calls : List Call) :
    (t.after calls).IsAscending := by
  induction calls generalizing t with
  | nil => exact h
  | cons call calls ih => exact ih (h.run call)

/-- What single calls keep of the table and of the receipts so far. -/
structure IsKept (P : ChannelTable → List Receipt → Prop) : Prop where
  add {t : ChannelTable} {rs : List Receipt} (f : Frame) (source : L1Position)
    (ht : t.IsAscending) (h : P t rs) : P (t.add f source).2 (rs ++ [.of t f source])
  expire {t : ChannelTable} {rs : List Receipt} (block : Word) (ht : t.IsAscending) (h : P t rs) :
    P (t.expire block).2 rs
  new (timeout : Word) (rs : List Receipt) : P (.new timeout) rs

namespace IsKept
variable {P : ChannelTable → List Receipt → Prop} {t : ChannelTable} {rs : List Receipt}

/-- **The step.**  To give up all channels is to begin anew. -/
theorem run (hP : IsKept P) (call : Call) (ht : t.IsAscending) (h : P t rs) :
    P (call.run t) (rs ++ call.receipts t) := by
  cases call with
  | add f source => exact hP.add f source ht h
  | expire block =>
    rw [Call.receipts, List.append_nil]
    exact hP.expire block ht h
  | finish block =>
    rw [Call.receipts, List.append_nil]
    exact hP.new t.timeout rs

/-- **Every run.**  What single calls keep holds behind every run. -/
theorem after (hP : IsKept P) (calls : List Call) (ht : t.IsAscending) (h : P t rs) :
    P (t.after calls) (rs ++ t.receipts calls) := by
  induction calls generalizing t rs with
  | nil =>
    rw [receipts, List.append_nil]
    exact h
  | cons call calls ih =>
    rw [receipts, ← List.append_assoc]
    exact ih (ht.run call) (hP.run call ht h)

end IsKept

end ChannelTable
end BatchInbox
