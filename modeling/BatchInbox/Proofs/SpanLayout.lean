import BatchInbox.Proofs.SpanPayload

/-!
# Span batches say where they end

A span batch begins with numbers and fields of a fixed length, then come as many origin bits and
transaction counts as one of the numbers says.  So a reader knows where the transactions begin,
though nothing marks the place, and whatever stands there is the transactions.

A batch that is cut short in front of them is refused, wherever the cut falls: in a number, in a field
of a fixed length, or in front of a count that the number of blocks asks for.  The error names the part
in which the cut falls.  A number that is cut short is no varint, since each byte that is left
announces another; of the other parts too few bytes are left.

## What is here

* `SpanPayload.error_of_cutAt` — the errors of batches that are cut short.
* `SpanBatch.decode_delimited` — what is read from a batch with something behind it, and from one that
  is cut short.
-/

set_option autoImplicit false
namespace BatchInbox

/-- A cut in a payload is found by the reader of a number, or by one that finds too few bytes. -/
theorem SpanPayload.error_of_cutAt {p : SpanPayload} {cut : Bytes} {error : Batch.Error}
    (h : p.layout.CutAt cut error) : ∃ field, error = .truncated field ∨ error = .varint field := by
  have hmem := h.error_mem
  simp only [layout, List.map_append, List.map_cons, List.map_nil, List.map_map, List.mem_append,
    List.mem_cons, List.not_mem_nil, or_false, List.mem_map, Function.comp_apply] at hmem
  rcases hmem with (rfl | rfl | rfl | rfl | rfl | rfl) | ⟨n, -, rfl⟩
  all_goals first | exact ⟨_, .inl rfl⟩ | exact ⟨_, .inr rfl⟩

namespace SpanBatch

/-- **A batch says where it ends.**  If its parts agree, then whatever stands behind them is read as its
transactions.  If it is cut short in front of these, it is refused, with the error of the part in which
the cut falls: too few bytes, or no varint. -/
theorem decode_delimited {b : SpanBatch} (h : b.WellFormed) (htxs : b.txs = []) :
    (∀ txs, decode (b.encode ++ txs) = .ok { b with txs }) ∧
    ∀ cut : Bytes, cut <+: b.encode → cut ≠ b.encode → ∃ error, b.payload.layout.CutAt cut error ∧
      decode cut = .error error ∧ ∃ field, error = .truncated field ∨ error = .varint field := by
  have hread := delimits_decode b.fits_payload.isReadable (b.batch_payload.symm ▸ h)
  rw [b.batch_payload] at hread
  have hbytes : b.payload.layout.bytes = b.encode := by
    have htxs' : b.payload.txs = [] := htxs
    rw [← encode_payload, ← SpanPayload.bytes_layout, htxs', List.append_nil]
  constructor
  · intro txs
    rw [← hbytes]
    exact hread.whole txs
  · intro cut hfront hne
    have hcut : cut.IsCutShort b.payload.layout.bytes := by
      rw [hbytes]
      exact Bytes.isCutShort_iff.2 ⟨hfront, hne⟩
    obtain ⟨error, herror⟩ := Layout.exists_cutAt hcut
    exact ⟨error, herror, hread.cut herror, SpanPayload.error_of_cutAt herror⟩

/-- A batch for so many blocks that their number takes two groups. -/
def longRun : SpanBatch :=
  { emptyBlock with blockCount := 200, originBits := .replicate 25 0, txCounts := .replicate 200 0 }

theorem decode_delimited_longRun :
    longRun.WellFormed ∧ longRun.txs = [] ∧
      decode (longRun.encode ++ [7, 8]) = .ok { longRun with txs := [7, 8] } ∧
      ∀ length < longRun.encode.length, ∃ error,
        longRun.payload.layout.CutAt (longRun.encode.take length) error ∧
          decode (longRun.encode.take length) = .error error := by
  have hrun : longRun.WellFormed := by decide +kernel
  obtain ⟨hwhole, hcut⟩ := decode_delimited hrun rfl
  refine ⟨hrun, rfl, hwhole [7, 8], fun length hlt => ?_⟩
  have hne : longRun.encode.take length ≠ longRun.encode := fun heq => by
    have := congrArg List.length heq
    rw [List.length_take] at this
    omega
  obtain ⟨error, herror, hread, -⟩ := hcut _ (List.take_prefix ..) hne
  exact ⟨error, herror, hread⟩

end SpanBatch
end BatchInbox
