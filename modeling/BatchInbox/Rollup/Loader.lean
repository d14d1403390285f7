import BatchInbox.Resolve.Error
import BatchInbox.Rollup.Json
import BatchInbox.Rpc.Client

/-!
# Where chain parameters come from

The parameters of a chain are built in, or a rollup node tells them.  What a node has told is not
asked for again.
-/

set_option autoImplicit false
namespace BatchInbox.Rollup

/-- What rollup nodes have told, by URL. -/
abbrev Memo := List (String × Rollup)

/-- The built-in parameters of a chain. -/
def byChainId (l2ChainId : Word) : Except ResolveError Rollup :=
  match known? l2ChainId with
  | none => .error (.configUnknownChain l2ChainId)
  | some c => .ok c

section
variable {σ α : Type}

/-- Asks a new client of a node, with the given number of attempts. -/
def ask (transport : Transport σ) (maxAttempts : Nat) (url method : String)
    (read : Json → Option α) : Effect σ ResolveError α :=
  Effect.ofStep fun world =>
    let client : JsonRpc.Client := ⟨url, maxAttempts⟩
    match (client.call transport method (.array []) read).step (world, JsonRpc.firstId) with
    | (.ok a, world, _) => (.ok a, world)
    | (.error e, world, _) => (.error (.configFetch url e), world)

/-- The parameters that the rollup node at a URL tells. -/
def fromNode (transport : Transport σ) (maxAttempts : Nat) (url : String) :
    Effect (σ × Memo) ResolveError Rollup := do
  match (← get).2.lookup url with
  | some c => return c
  | none =>
    let c ← (ask transport maxAttempts url "optimism_rollupConfig" ofNodeJson?).onFst
    match c.validate with
    | .error cause => throw (.configFetch url (.malformed (.rollup cause)))
    | .ok () =>
      modify fun (world, memo) => (world, (url, c) :: memo)
      return c

/-- The chain of the execution client at a URL. -/
def chainIdOf (transport : Transport σ) (maxAttempts : Nat) (url : String) :
    Effect σ ResolveError Word :=
  ask transport maxAttempts url "eth_chainId" (Json.toQuantity? UInt64.size)

end
end BatchInbox.Rollup
