import BatchInbox.Http.SocketAddress
import BatchInbox.Json.Decode
import BatchInbox.Resolve

/-!
# The command line

There are two commands: one resolves a range once, the other serves ranges.  Their options may come
in any order, each at most once, with the value behind it or behind an equals sign.

## What is here

* `Command` — the commands and their options.
* `Usage` — why there is no command to carry out, a request for help included.
* `Command.parse` — reads a command line.
-/

set_option autoImplicit false
namespace BatchInbox

/-! ## Commands -/

/-- The options for resolving a range. -/
structure GetRange where
  start : Word
  last : Word
  /-- An execution client of the L2 chain, whose id tells which chain it is. -/
  l2Rpc? : Option String
  /-- A rollup node, which is preferred. -/
  l2Node? : Option String
  l1Rpc : String
  l1Beacon : String
  sender? : Option Address
  dataDirectory : String
  isStrict : Bool
  maxLength? : Option Word
  deriving DecidableEq

/-- The options for serving ranges. -/
structure Serve where
  address : SocketAddress
  dataDirectory : String
  isStrict : Bool
  concurrency : Nat
  deriving DecidableEq

/-- What to do. -/
inductive Command where
  | getRange (options : GetRange)
  | serve (options : Serve)
  deriving DecidableEq

/-- The settings for resolving a range. -/
def GetRange.settings (o : GetRange) : ResolveSettings :=
  { ResolveSettings.default with isStrict := o.isStrict }

/-- The settings for serving ranges, with at least one block fetched at a time. -/
def Serve.settings (o : Serve) : ResolveSettings :=
  { ResolveSettings.default with isStrict := o.isStrict, concurrency := max 1 o.concurrency }

/-- Why there is no command to carry out. -/
inductive Usage where
  | help
  | helpForNoCommand
  | invalidSubcommand
  | unknownArgument
  | tooManyValues
  | argumentConflict
  | valueValidation
  | invalidValue
  | missingRequiredArgument
  deriving DecidableEq, Repr

namespace Usage

/-- The name of a reason. -/
def kind : Usage → String
  | help => "DisplayHelp"
  | helpForNoCommand => "DisplayHelpOnMissingArgumentOrSubcommand"
  | invalidSubcommand => "InvalidSubcommand"
  | unknownArgument => "UnknownArgument"
  | tooManyValues => "TooManyValues"
  | argumentConflict => "ArgumentConflict"
  | valueValidation => "ValueValidation"
  | invalidValue => "InvalidValue"
  | missingRequiredArgument => "MissingRequiredArgument"

/-- The exit code: help that was asked for is a success. -/
def exitCode : Usage → Nat
  | help => 0
  | _ => 1

end Usage

/-! ## Options -/

/-- The values that an option takes. -/
inductive ValueKind where
  /-- The option takes none. -/
  | flag
  | word
  | text
  /-- A text that is not empty. -/
  | path
  | account
  | socket
  deriving DecidableEq, Repr

/-- An address behind an optional `0x`. -/
def parseAddress? (text : String) : Option Address :=
  (Json.hexBytes? text.toList).bind (BytesN.ofList? 20)

/-- A word with an optional plus sign. -/
def parseWord? (text : String) : Option Word := Decimal.readWord? text.toList

/-- Why an option does not take a value, if it does not. -/
def ValueKind.refuse? (k : ValueKind) (value : String) : Option Usage :=
  let only (accepted : Bool) : Option Usage := if accepted then none else some .valueValidation
  match k with
  | flag | text => none
  | word => only (parseWord? value).isSome
  | path => if value.isEmpty then some .invalidValue else none
  | account => only (parseAddress? value).isSome
  | socket => only (SocketAddress.parse? value).isSome

/-- The options of a command, by name. -/
abbrev OptionTable := List (String × ValueKind)

/-- The options for resolving a range. -/
def GetRange.options : OptionTable :=
  [("start", .word), ("end", .word), ("l2", .text), ("l2.node", .text), ("l1", .text),
    ("l1.beacon", .text), ("sender", .account), ("data-dir", .path), ("strict", .flag),
    ("max-range", .word)]

/-- The options for serving ranges. -/
def Serve.options : OptionTable :=
  [("addr", .socket), ("data-dir", .path), ("strict", .flag), ("concurrency", .word)]

/-! ## Arguments -/

/-- An argument by its form. -/
inductive Argument where
  /-- Two dashes: what follows is no option. -/
  | escape
  | long (name : String) (value? : Option String)
  /-- A dash, with letters behind it. -/
  | short (letters : List Char)
  | value (text : String)

/-- The form of an argument. -/
def Argument.ofString (text : String) : Argument :=
  match text.toList with
  | ['-', '-'] => .escape
  | '-' :: '-' :: rest =>
    let name := String.ofList (rest.takeWhile (· ≠ '='))
    match rest.dropWhile (· ≠ '=') with
    | [] => .long name none
    | _ :: attached => .long name (some (String.ofList attached))
  | '-' :: c :: rest => .short (c :: rest)
  | _ => .value text

/-- The options read so far: those that are settled, and the last one, which may lack its value. -/
structure Options where
  settled : List (String × String)
  last? : Option (String × Option String)

namespace Options

/-- No options. -/
def empty : Options := ⟨[], none⟩

/-- Adds an option with its value. -/
def add (table : OptionTable) (o : Options) (name value : String) : Except Usage Options :=
  if (o.settled.lookup name).isSome then .error .argumentConflict
  else
    match ((table.lookup name).getD .text).refuse? value with
    | some usage => .error usage
    | none => .ok ⟨o.settled ++ [(name, value)], none⟩

/-- Settles the last option, which has to have its value. -/
def settle (table : OptionTable) (o : Options) : Except Usage Options :=
  match o.last? with
  | none => .ok o
  | some (_, none) => .error .invalidValue
  | some (name, some value) => add table ⟨o.settled, none⟩ name value

/-- Takes an option, with the value behind its equals sign. -/
def takeLong (table : OptionTable) (o : Options) (name : String) (value? : Option String) :
    Except Usage Options :=
  match table.lookup name, value? with
  | none, none =>
    if name = "help" then (o.settle table).bind fun _ => .error .help
    else .error .unknownArgument
  | none, some _ => .error (if name = "help" then .tooManyValues else .unknownArgument)
  | some .flag, some _ => .error .tooManyValues
  | some .flag, none => (o.settle table).bind fun o => o.add table name "true"
  | some _, some value => (o.settle table).bind fun o => o.add table name value
  | some _, none => (o.settle table).map fun o => { o with last? := some (name, none) }

/-- Takes letters behind a dash, of which only the one for help stands for something. -/
def takeShort (table : OptionTable) (o : Options) (letters : List Char) : Except Usage Options :=
  if letters.head? = some 'h' then (o.settle table).bind fun _ => .error .help
  else .error .unknownArgument

/-- Takes the arguments of a command. -/
def takeAll (table : OptionTable) (o : Options) : List String → Except Usage Options
  | [] => o.settle table
  | argument :: rest =>
    match Argument.ofString argument, o.last? with
    | .escape, _ => if rest.isEmpty then o.settle table else .error .unknownArgument
    | .long name value?, _ => (takeLong table o name value?).bind (takeAll table · rest)
    | .short letters, _ => (takeShort table o letters).bind (takeAll table · rest)
    | .value text, some (name, none) =>
      takeAll table { o with last? := some (name, some text) } rest
    | .value _, _ => .error .unknownArgument

/-- The value of an option. -/
def find? (o : Options) (name : String) : Option String := o.settled.lookup name

/-- The value of an option that has to be there. -/
def require (o : Options) (name : String) : Except Usage String :=
  match o.find? name with
  | none => .error .missingRequiredArgument
  | some value => .ok value

end Options

/-- Where files are kept unless the caller says otherwise. -/
def defaultDataDirectory : String := "./data"

/-- The command to resolve a range. -/
def GetRange.ofOptions (o : Options) : Except Usage GetRange := do
  let start ← o.require "start"
  let last ← o.require "end"
  let l1Rpc ← o.require "l1"
  let l1Beacon ← o.require "l1.beacon"
  return {
    start := (parseWord? start).getD 0
    last := (parseWord? last).getD 0
    l2Rpc? := o.find? "l2"
    l2Node? := o.find? "l2.node"
    l1Rpc
    l1Beacon
    sender? := (o.find? "sender").bind parseAddress?
    dataDirectory := (o.find? "data-dir").getD defaultDataDirectory
    isStrict := (o.find? "strict").isSome
    maxLength? := (o.find? "max-range").bind parseWord? }

/-- The address that the server listens at unless the caller says otherwise. -/
def Serve.defaultAddress : SocketAddress := .v4 [0, 0, 0, 0] 8089

/-- The command to serve ranges. -/
def Serve.ofOptions (o : Options) : Serve where
  address := ((o.find? "addr").bind SocketAddress.parse?).getD defaultAddress
  dataDirectory := (o.find? "data-dir").getD defaultDataDirectory
  isStrict := (o.find? "strict").isSome
  concurrency :=
    match (o.find? "concurrency").bind parseWord? with
    | none => ResolveSettings.default.concurrency
    | some n => n.toNat

namespace Command

/-- The names of commands. -/
def names : List String := ["get-range", "serve", "help"]

/-- Help, for the command that is named, if any. -/
def help : List String → Usage
  | [] => .help
  | [name] => if names.contains name then .help else .invalidSubcommand
  | _ => .invalidSubcommand

/-- Reads a command line, without the name of the program. -/
def parse (args : List String) : Except Usage Command :=
  match args with
  | [] => .error .helpForNoCommand
  | "help" :: rest => .error (help rest)
  | "get-range" :: rest => do
    return .getRange (← GetRange.ofOptions (← Options.takeAll GetRange.options .empty rest))
  | "serve" :: rest => do
    return .serve (Serve.ofOptions (← Options.takeAll Serve.options .empty rest))
  | argument :: rest =>
    match Argument.ofString argument with
    | .escape =>
      match rest with
      | [] => .error .helpForNoCommand
      | name :: _ =>
        .error (if names.contains name then .unknownArgument else .invalidSubcommand)
    | .long "help" none => .error .help
    | .long "help" (some _) => .error .tooManyValues
    | .long _ _ => .error .unknownArgument
    | .short ('h' :: _) => .error .help
    | .short _ => .error .unknownArgument
    | .value _ => .error .invalidSubcommand

end Command
end BatchInbox
