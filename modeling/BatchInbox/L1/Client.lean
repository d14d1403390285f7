import BatchInbox.L1.Json
import BatchInbox.L1.Source
import BatchInbox.Rpc.Client

/-!
# Execution clients

An execution client is asked for a block by its number, or for the last final one, and with or
without its transactions.
-/

set_option autoImplicit false
namespace BatchInbox

/-- A value that may be null. -/
def Json.toNullable? {α : Type} (read : Json → Option α) : Json → Option (Option α)
  | .null => some none
  | value => (read value).map some

namespace JsonRpc.Client
variable {σ α : Type}

/-- The tag of a block: its number in hexadecimal. -/
def blockTag (number : Word) : String :=
  "0x" ++ String.ofList (Nat.toDigits 16 number.toNat)

/-- Asks for a block. -/
def blockBy (c : Client) (transport : Transport σ) (tag : String) (withTxs : Bool)
    (read : Json → Option α) : Effect (σ × Word) RpcError α := do
  let params := Json.array [.ofString tag, .bool withTxs]
  match ← c.call transport "eth_getBlockByNumber" params (Json.toNullable? read) with
  | none => throw (.notFound s!"l1 block {tag}")
  | some block => return block

/-- The execution client at the other end. -/
def l1Source (c : Client) (transport : Transport σ) : L1Source (σ × Word) where
  finalized := c.blockBy transport "finalized" false L1Header.ofJson?
  header number := c.blockBy transport (blockTag number) false L1Header.ofJson?
  block number := c.blockBy transport (blockTag number) true L1Block.ofJson?

end JsonRpc.Client
end BatchInbox
