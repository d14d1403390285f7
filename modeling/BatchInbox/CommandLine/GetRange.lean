import BatchInbox.CommandLine
import BatchInbox.Resolve.Remote

/-!
# Resolving a range from the command line

The parameters of the chain come from a rollup node, or from the built-in table by the chain id that
an execution client tells.

## What is here

* `GetRange.Error`, `GetRange.Error.fullText` — errors, with the reasons behind them.
* `GetRange.run` — the ranges that a command asks for.
-/

set_option autoImplicit false
namespace BatchInbox.GetRange

/-- Why there are no ranges. -/
inductive Error where
  | noNode
  | resolve (cause : ResolveError)
  deriving DecidableEq

/-- The text of an error, and those of all reasons behind it. -/
def Error.fullText : Error → String
  | noNode => "either --l2.node or --l2 is required"
  | resolve cause => String.intercalate ": " (cause.message :: cause.causes)

section
variable {σ : Type}

/-- The parameters of the chain. -/
def rollup (o : GetRange) (transport : Transport σ) : Effect σ Error Rollup := do
  match o.l2Node?, o.l2Rpc? with
  | some node, _ =>
    let fromNode := (Rollup.fromNode transport defaultAttempts node).zoom
      (fun world => (world, ([] : Rollup.Memo))) fun s _ => s.1
    fromNode.mapError .resolve
  | none, some rpc =>
    let id ← (Rollup.chainIdOf transport defaultAttempts rpc).mapError .resolve
    match Rollup.byChainId id with
    | .error cause => throw (.resolve cause)
    | .ok c => return c
  | none, none => throw .noNode

/-- The ranges that a command asks for. -/
def run (o : GetRange) (transport : Transport σ) (isCancelled : σ → Bool) :
    Effect (σ × Disk) Error (List BlockRange) := do
  let c ← (o.rollup transport).onFst
  let c := { c with batcher := o.sender?.getD c.batcher }
  let resolution ← (resolveRemote transport isCancelled defaultAttempts o.settings o.l1Rpc
    o.l1Beacon c o.start o.last).mapError .resolve
  return resolution.pieces o.maxLength?

end
end BatchInbox.GetRange
