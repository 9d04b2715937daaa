import TunnelServer.Server.Settings

/-!
# Command line options

Options come as a name and a value, in two words or in one with an equals sign between them.
-/

namespace TunnelServer.Server

/-- What the command line asks for. -/
structure Options where
  settings : Settings := {}
  /-- The file with the tunnel records. -/
  tunnels : String
  /-- Where local datagrams come from; standard input if absent. -/
  input : Option String := none
  /-- Where payloads go; standard output if absent. -/
  output : Option String := none
  /-- Where local datagrams that no tunnel claims go; they are dropped if absent. -/
  passUnhandled : Option String := none
  deriving DecidableEq

/-- Why a command line was not understood. -/
inductive UsageError where
  | unknownOption (name : String)
  | missingValue (name : String)
  | badValue (name value : String)
  | repeated (name : String)
  | missingTunnels
  | zeroTick
  deriving DecidableEq

namespace UsageError

def message : UsageError → String
  | unknownOption name => "unexpected argument '" ++ name ++ "'"
  | missingValue name => "a value is required for '" ++ name ++ "'"
  | badValue name value => "invalid value '" ++ value ++ "' for '" ++ name ++ "'"
  | repeated name => "the argument '" ++ name ++ "' cannot be used multiple times"
  | missingTunnels => "the argument '--tunnels' is required"
  | zeroTick => "--heartbeat-tick must be positive"

end UsageError

namespace Options

/-- The names of all options. -/
def names : List String :=
  ["--bind", "--tunnels", "--input", "--output", "--heartbeat-tick", "--pass-unhandled"]

/-- Splits a word at its first equals sign. -/
def splitWord (word : String) : String × Option String :=
  let name := word.toList.takeWhile (· ≠ '=')
  let rest := word.toList.drop name.length
  (String.ofList name, if rest = [] then none else some (String.ofList rest.tail))

/-- Pairs the names of options with their values. -/
def pairUp : List String → Except UsageError (List (String × String))
  | [] => .ok []
  | word :: rest =>
    let (name, value) := splitWord word
    if name ∉ names then .error (.unknownOption name)
    else
      match value, rest with
      | some value, rest => (pairUp rest).map ((name, value) :: ·)
      | none, value :: rest => (pairUp rest).map ((name, value) :: ·)
      | none, [] => .error (.missingValue name)

/-- The value given for an option, if any. -/
def valueOf (pairs : List (String × String)) (name : String) :
    Except UsageError (Option String) :=
  match pairs.filter (·.1 = name) with
  | [] => .ok none
  | [(_, value)] => .ok (some value)
  | _ => .error (.repeated name)

/-- The value given for an option, read, or a default. -/
def readValue {α : Type} (pairs : List (String × String)) (name : String) (default : α)
    (read? : String → Option α) : Except UsageError α := do
  match ← valueOf pairs name with
  | none => return default
  | some value =>
    match read? value with
    | some result => return result
    | none => throw (.badValue name value)

/-- How an interval in milliseconds is written. -/
def intervalForm : Numeral.Form where
  base := 10
  limit := 0xffffffffffffffff

/-- Reads an interval; a plus sign may stand before it. -/
def readInterval? (text : String) : Option Nat :=
  let digits := match text.toList with
    | '+' :: rest => rest
    | characters => characters
  match intervalForm.read? digits with
  | some (millis, []) => some millis
  | _ => none

/-- The options that the words of a command line spell. -/
def parse (words : List String) : Except UsageError Options := do
  let pairs ← pairUp words
  let defaults : Settings := {}
  let bind ← readValue pairs "--bind" defaults.bind SocketAddress.ofText?
  let tick ← readValue pairs "--heartbeat-tick" defaults.heartbeatTick readInterval?
  let input ← valueOf pairs "--input"
  let output ← valueOf pairs "--output"
  let passUnhandled ← valueOf pairs "--pass-unhandled"
  match ← valueOf pairs "--tunnels" with
  | none => throw .missingTunnels
  | some tunnels =>
    if tick = 0 then throw .zeroTick
    else
      return {
        settings := { defaults with bind := bind, heartbeatTick := tick }
        tunnels, input, output, passUnhandled }

end Options

end TunnelServer.Server
