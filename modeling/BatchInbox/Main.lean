import BatchInbox.CommandLine.GetRange
import BatchInbox.Server

/-!
# The program

The command line is read and carried out.  The program has no network of its own, so every request
to a node goes unanswered; whoever has one calls `GetRange.run` and `Server.answer` with a transport
for it.
-/

set_option autoImplicit false
namespace BatchInbox

/-- How the program is used. -/
def usageText : String :=
  "Usage: get-range --start <START> --end <END> --l1 <L1> --l1.beacon <L1_BEACON>\n" ++
    "         [--l2 <L2> | --l2.node <L2_NODE>] [--sender <SENDER>] [--data-dir <DIR>]\n" ++
    "         [--strict] [--max-range <MAX_RANGE>]\n" ++
    "       serve [--addr <ADDR>] [--data-dir <DIR>] [--strict] [--concurrency <N>]"

/-- Carries out a command: what to print, and whether it is an error. -/
def Command.run : Command → Except String String
  | .getRange options =>
    match ((options.run .offline fun _ => false).step ((), Disk.empty)).1 with
    | .ok ranges => .ok (String.ofList (Server.rangesBody ranges))
    | .error e => .error e.fullText
  | .serve options => .error s!"cannot listen at {options.address.text}"

end BatchInbox

/-- Carries out the command line. -/
def main (args : List String) : IO UInt32 := do
  match BatchInbox.Command.parse args with
  | .error usage =>
    if usage.exitCode = 0 then IO.println BatchInbox.usageText
    else IO.eprintln (usage.kind ++ "\n" ++ BatchInbox.usageText)
    return usage.exitCode.toUInt32
  | .ok command =>
    match command.run with
    | .ok text => IO.println text; return 0
    | .error text => IO.eprintln text; return 1
