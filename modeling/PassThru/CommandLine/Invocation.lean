import PassThru.CommandLine.Argument
import PassThru.Decimal.Literal
import PassThru.Monitor

/-!
# Invocations

An invocation is what a command line asks for: a command, and options that every command takes. The
latter may stand before the command or after it; what stands after it wins. The settings file can
also be named by an environment variable.

An option may be given once on each level.
-/

namespace PassThru.CommandLine

/-! ## What can be asked for -/

/-- How a log is written. -/
inductive LogFormat where
  | text
  | json
  deriving DecidableEq, Repr

/-- What a log holds: messages of this level and the more severe ones. -/
inductive LogLevel where
  | error
  | warn
  | info
  | debug
  | trace
  deriving DecidableEq, Repr

/-- A command. -/
inductive Command where
  /-- List the devices. -/
  | scan
  /-- Show the versions of a device. -/
  | version (device : String)
  /-- Show the frames on a bus. -/
  | monitor (monitor : Monitor)
  /-- Show the table of error codes. -/
  | errors
  deriving DecidableEq, Repr

/-- What a command line asks for. -/
structure Invocation where
  command : Command
  /-- The settings file. -/
  config : Option String := none
  /-- How many emulated devices to use instead of a library. -/
  emulated : Option Nat := none
  /-- Whether to answer in JSON. -/
  json : Bool := false
  logFormat : LogFormat := .text
  logLevel : LogLevel := .warn
  deriving DecidableEq, Repr

/-! ## Values of options -/

def nonempty? (text : String) : Option String := if text.isEmpty then none else some text

/-- A natural number of 64 bits. -/
def count? (text : String) : Option Nat :=
  (Literal.unsigned? text.toList).filter (· < UInt64.size)

/-- A number of 32 bits; zero may have a minus sign. -/
def uint32? (text : String) : Option UInt32 :=
  match Literal.int64? text.toList with
  | some n => if 0 ≤ n ∧ n < UInt32.size then some (UInt32.ofNat n.toNat) else none
  | none => none

def logFormats : List (String × LogFormat) := [("text", .text), ("json", .json)]

def logLevels : List (String × LogLevel) :=
  [("error", .error), ("warn", .warn), ("info", .info), ("debug", .debug), ("trace", .trace)]

def busProtocols : List (String × BusProtocol) :=
  [("j1850vpw", .j1850vpw), ("j1850pwm", .j1850pwm), ("iso9141", .iso9141),
    ("iso14230", .iso14230), ("can", .can), ("j2610", .j2610)]

/-! ## Levels -/

/-- What the options and operands of a level gave. -/
structure Given where
  config : Option String := none
  emulated : Option Nat := none
  json : Option Unit := none
  logFormat : Option LogFormat := none
  logLevel : Option LogLevel := none
  device : Option String := none
  bus : Option BusProtocol := none
  baud : Option UInt32 := none
  count : Option Nat := none
  idleReads : Option Nat := none
  deriving DecidableEq, Repr

/-- The value of an option that was not given yet. -/
def once {β : Type} (old new : Option β) : Option (Option β) :=
  if old.isSome || new.isNone then none else some new

/-- The options with a value that every level takes. -/
def commonOptions : List (String × (String → Given → Option Given)) :=
  [("config", fun text g => (once g.config (nonempty? text)).map ({ g with config := · })),
    ("mock", fun text g => (once g.emulated (count? text)).map ({ g with emulated := · })),
    ("log-format", fun text g =>
      (once g.logFormat (logFormats.lookup text)).map ({ g with logFormat := · })),
    ("log-level", fun text g =>
      (once g.logLevel (logLevels.lookup text)).map ({ g with logLevel := · }))]

/-- The options without a value, which every level takes. -/
def commonFlags : List (String × (Given → Option Given)) :=
  [("json", fun g => (once g.json (some ())).map ({ g with json := · }))]

/-- The options of the command that monitors a bus. -/
def monitorOptions : List (String × (String → Given → Option Given)) :=
  [("protocol", fun text g => (once g.bus (busProtocols.lookup text)).map ({ g with bus := · })),
    ("baud", fun text g => (once g.baud (uint32? text)).map ({ g with baud := · })),
    ("count", fun text g => (once g.count (count? text)).map ({ g with count := · })),
    ("idle-reads", fun text g =>
      (once g.idleReads (count? text)).map ({ g with idleReads := · }))]

/-- The only operand of a command is a device. -/
def deviceOperand (text : String) (g : Given) : Option Given :=
  (once g.device (some text)).map ({ g with device := · })

/-- What stands before the command. -/
def outerLevel : Level Given where
  options := commonOptions
  flags := commonFlags
  commands := ["scan", "version", "monitor", "errors"]
  hasVersion := true

/-- What stands after a command. -/
def innerLevel (command : String) : Level Given where
  options := commonOptions ++ (if command = "monitor" then monitorOptions else [])
  flags := commonFlags
  operand := if command ∈ ["version", "monitor"] then deviceOperand else fun _ _ => none

/-! ## Invocations -/

/-- The command of a name with what was given to it, unless a device is missing. -/
def Command.ofGiven? (name : String) (g : Given) : Option Command :=
  match name, g.device with
  | "scan", _ => some .scan
  | "errors", _ => some .errors
  | "version", some device => some (.version device)
  | "monitor", some device =>
    let standard : Monitor := { device }
    some (.monitor { standard with
      bus := g.bus.getD standard.bus
      baud := g.baud
      count := g.count.getD standard.count
      idleReads := g.idleReads.getD standard.idleReads })
  | _, _ => none

/-- The environment variable that names the settings file. -/
def configVariable : String := "J2534_CONFIG"

/-- The settings file of a level. The environment stands in on each level that names none, and must
not do so with an empty name. -/
def Given.configOr (g : Given) (environment : List (String × String)) :
    Except Stop (Option String) :=
  match g.config, environment.lookup configVariable with
  | none, some path => (Level.change (nonempty? path)).map some
  | config, _ => .ok config

namespace Invocation

/-- What a command line asks for. -/
def ofArguments (environment : List (String × String)) (arguments : List String) :
    Except Stop Invocation := do
  let (outer, rest?) ← outerLevel.read arguments {}
  let rest ← Level.change rest?
  let (inner, _) ← (innerLevel rest.command).read rest.arguments {}
  let command ← Level.change (Command.ofGiven? rest.command inner)
  let _ ← inner.configOr environment
  let outerConfig ← outer.configOr environment
  return {
    command
    config := inner.config.or outerConfig
    emulated := inner.emulated.or outer.emulated
    json := (inner.json.or outer.json).isSome
    logFormat := (inner.logFormat.or outer.logFormat).getD .text
    logLevel := (inner.logLevel.or outer.logLevel).getD .warn }

end Invocation

end PassThru.CommandLine
