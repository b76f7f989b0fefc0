import PassThru.Settings.Basic
import PassThru.Settings.Source
import PassThru.Toml.Document

/-!
# Loading settings

Settings are the defaults, replaced by those of a file, replaced by those of the environment. The
file is a TOML document, known by the ending of its name; what is in neither source keeps its
default, and a key that names no setting is ignored.
-/

namespace PassThru

namespace SettingsFile

/-- The part of a file's name behind its last point, unless the name starts with that. -/
def ending? (path : String) : Option String :=
  let name := (path.toList.reverse.takeWhile (· != '/')).reverse
  let ending := (name.reverse.takeWhile (· != '.')).reverse
  if ending.length + 1 < name.length then some (String.ofList ending) else none

/-- The content of a settings file. A path that names no file is tried with the ending. -/
def content (readFile : String → Option String) (path : String) : Answer String :=
  match readFile path with
  | some text =>
    if ending? path = some "toml" then .ok text
    else .error (.unreadableSettings (path ++ " is not of a known format"))
  | none =>
    match readFile (path ++ ".toml") with
    | some text => .ok text
    | none => .error (.unreadableSettings (path ++ " not found"))

def assignments (readFile : String → Option String) (path : String) : Answer (List Assignment) := do
  let text ← content readFile path
  match Toml.Document.read? text with
  | some fields => return documentAssignments fields
  | none => .error (.unreadableSettings (path ++ " is not well formed"))

end SettingsFile

namespace Settings

/-- A number setting below a bound; it keeps its default if nothing is assigned. -/
def number (assignments : List Assignment) (name : String) (bound default : Nat) : Answer Nat :=
  match Assignment.valueOf? assignments name with
  | none => .ok default
  | some value =>
    match value.toNat? with
    | some n =>
      if n < bound then .ok n
      else .error (.unreadableSettings (name ++ " is out of range"))
    | none => .error (.unreadableSettings (name ++ " is not a number"))

def optionalText (assignments : List Assignment) (name : String) : Answer (Option String) :=
  match Assignment.valueOf? assignments name with
  | none => .ok none
  | some value =>
    match value.toText? with
    | some text => .ok (some text)
    | none => .error (.unreadableSettings (name ++ " is not a text"))

/-- The settings of a list of assignments. -/
def ofAssignments (assignments : List Assignment) : Answer Settings := do
  let default : Settings := {}
  let libraryPath ← optionalText assignments "library_path"
  let timeout ←
    number assignments "default_timeout_ms" UInt32.size default.defaultTimeoutMs.toNat
  let batch ← number assignments "read_batch_size" UInt64.size default.readBatchSize.toNat
  let buffer ← number assignments "rx_buffer_size" UInt32.size default.rxBufferSize.toNat
  return {
    libraryPath := libraryPath.map Path.ofText
    defaultTimeoutMs := UInt32.ofNat timeout
    readBatchSize := UInt64.ofNat batch
    rxBufferSize := UInt32.ofNat buffer }

/-- The valid settings of an optional file and the environment variables. -/
def load (readFile : String → Option String) (path : Option String)
    (environment : List (String × String)) : Answer Settings := do
  let fromFile ←
    match path with
    | some path => SettingsFile.assignments readFile path
    | none => .ok []
  let settings ← ofAssignments (fromFile ++ variableAssignments environment)
  settings.validate
  return settings

end Settings

end PassThru
