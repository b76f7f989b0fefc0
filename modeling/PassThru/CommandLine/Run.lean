import PassThru.CommandLine.Invocation
import PassThru.CommandLine.Layout
import PassThru.Emulator.Dispatch
import PassThru.Json.Models
import PassThru.Json.Printer
import PassThru.Settings.Load

/-!
# Running a command

A command is carried out on a client, of an emulated library or of the one that the settings name.
What it printed before an error stays printed; the error goes to the other stream, and makes the
exit code 1. A command line that is not understood has the exit code 2.
-/

namespace PassThru.CommandLine

/-- What a run leaves behind. -/
structure Outcome where
  exitCode : UInt8 := 0
  /-- The lines that were printed. -/
  lines : List String := []
  /-- What went to the error stream. -/
  complaint : Option String := none
  deriving DecidableEq, Repr

/-- What a run can see of its surroundings. The state is that of the libraries. -/
structure Surroundings (w : Width) (σ : Type) where
  /-- The environment variables. -/
  environment : List (String × String)
  /-- The content of a file, if there is one of that name. -/
  readFile : String → Option String
  /-- The library at a path. -/
  loadLibrary : Path → Answer (Library w σ)
  state : σ

/-! ## Commands -/

/-- Printed lines, and whether a complaint came after them. -/
structure Printed where
  lines : List String := []
  result : Except Complaint Unit := .ok ()

/-- The lines made of an answer. -/
def Printed.ofAnswer {α : Type} (layout : α → List String) : Except Complaint α → Printed
  | .ok a => { lines := layout a }
  | .error complaint => { result := .error complaint }

def jsonLines {α : Type} [JsonForm α] (a : α) : List String := [(toJson a).pretty]

def codeJson (code : ErrorCode) : Json :=
  .record ["code", "name", "description"]
    [.int code.code, .string code.name, .string code.description]

section Commands

variable {w : Width} {σ : Type}

def scan (c : Client w σ) (json : Bool) (state : σ) : Printed × σ :=
  let (devices, state) := c.scanDevices state
  (.ofAnswer (if json then jsonLines else deviceLines) (devices.during "device scan failed"), state)

def version (c : Client w σ) (name : String) (json : Bool) (state : σ) : Printed × σ :=
  match c.ask (.openDevice (some name)) state with
  | (.error cause, state) =>
    ({ result := .error { doing := ["failed to open " ++ name], cause } }, state)
  | (.ok device, state) =>
    let (versions, state) := c.ask (.readVersion device) state
    let (_, state) := c.ask (.closeDevice device) state
    (.ofAnswer (if json then jsonLines else versionLines)
      (versions.during "failed to read versions"), state)

def monitor (c : Client w σ) (m : Monitor) (json : Bool) (state : σ) : Printed × σ :=
  let (record, state) := m.run c state
  let line (frame : Message) : String := if json then (toJson frame).compact else frameLine frame
  ({ lines := record.frames.map line, result := record.result }, state)

def errors (json : Bool) : Printed where
  lines :=
    if json then [(Json.array (ErrorCode.all.map codeJson)).pretty]
    else ErrorCode.all.map codeLine

def Command.perform (command : Command) (c : Client w σ) (json : Bool) (state : σ) : Printed × σ :=
  match command with
  | .scan => CommandLine.scan c json state
  | .version device => CommandLine.version c device json state
  | .monitor m => CommandLine.monitor c m json state
  | .errors => (CommandLine.errors json, state)

/-- Carry out a command on a client, if there is one. -/
def Command.performOn (command : Command) (json : Bool) (state : σ) :
    Except Complaint (Client w σ) → Printed
  | .ok c => (command.perform c json state).1
  | .error complaint => { result := .error complaint }

end Commands

/-! ## Emulated devices -/

/-- What a vehicle sends to an emulated device: engine speed, vehicle speed and coolant
temperature. -/
def emulatedTraffic : List Message :=
  [.outgoing .can [0x00, 0x00, 0x07, 0xE8, 0x04, 0x41, 0x0C, 0x1A, 0xF8],
    .outgoing .can [0x00, 0x00, 0x07, 0xE8, 0x03, 0x41, 0x0D, 0x32],
    .outgoing .can [0x00, 0x00, 0x07, 0xE8, 0x03, 0x41, 0x05, 0x7B]]

/-- A number of emulated devices with traffic. -/
def emulatedRegistry (count : Nat) : Emulator.Registry :=
  (Emulator.Registry.numbered count).map fun interface =>
    { interface with traffic := emulatedTraffic }

/-! ## Runs -/

def usageLine : String := "usage: passthru [OPTIONS] <scan | version | monitor | errors>"

def toolVersion : String := "passthru 0.1.0"

/-- The run of a command line that is not carried out. -/
def Stop.outcome : Stop → Outcome
  | .usage => { exitCode := 2, complaint := some usageLine }
  | .version => { lines := [toolVersion] }

/-- The run that printed something. -/
def Printed.outcome (p : Printed) : Outcome :=
  match p.result with
  | .ok () => { lines := p.lines }
  | .error complaint =>
    { exitCode := 1, lines := p.lines, complaint := some ("error: " ++ complaint.message) }

variable {w : Width} {σ : Type}

/-- Do what an invocation asks for. -/
def Invocation.perform (i : Invocation) (s : Surroundings w σ) : Printed :=
  match (Settings.load s.readFile i.config s.environment).during "failed to load configuration" with
  | .error complaint => { result := .error complaint }
  | .ok settings =>
    match i.emulated with
    | some count =>
      i.command.performOn i.json (.initial (emulatedRegistry count))
        (Answer.plainly (Client.withSettings (Emulator.driver (w := w)) settings))
    | none =>
      i.command.performOn i.json s.state
        ((Client.ofSettings s.loadLibrary settings).during "failed to load PassThru library")

/-- Run a command line. -/
def run (s : Surroundings w σ) (arguments : List String) : Outcome :=
  match Invocation.ofArguments s.environment arguments with
  | .ok invocation => (invocation.perform s).outcome
  | .error stop => stop.outcome

end PassThru.CommandLine
