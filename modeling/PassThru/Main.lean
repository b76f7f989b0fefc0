import PassThru.CommandLine.Run

/-!
# The tool

Reads the surroundings of the process, runs the command line, and prints the outcome. Shared
libraries cannot be loaded here, so that without emulated devices every run ends with a complaint.
-/

namespace PassThru.Main

open CommandLine

/-- What a reading action reads, if it succeeds. -/
def read? {α : Type} (action : IO α) : IO (Option α) := do
  try
    return some (← action)
  catch _ =>
    return none

/-- The variables of an environment: entries with a NUL after each. -/
def variablesOf (content : List UInt8) : List (String × String) :=
  ((Utf8.decodeLossy content).splitOn "\x00").filterMap fun entry =>
    let (name, value) := entry.toList.span (· != '=')
    if value.isEmpty then none else some (String.ofList name, String.ofList value.tail)

/-- The environment variables of this process, where the system shows them. -/
def processEnvironment : IO (List (String × String)) := do
  match ← read? (IO.FS.readBinFile "/proc/self/environ") with
  | some content => return variablesOf content.toList
  | none => return []

/-- The files that a command line may need, with their content. -/
def settingsFiles (environment : List (String × String)) (arguments : List String) :
    IO (List (String × String)) := do
  match Invocation.ofArguments environment arguments with
  | .ok { config := some path, .. } =>
    [path, path ++ ".toml"].filterMapM fun (path : String) => do
      return (← read? (IO.FS.readFile path)).map fun content => (path, content)
  | _ => return []

/-- No library can be loaded. -/
def loadLibrary (path : Path) : Answer (Library .w64 Unit) :=
  .error (.libraryLoad path.display "shared libraries are not supported")

end PassThru.Main

def main (arguments : List String) : IO UInt32 := do
  let environment ← PassThru.Main.processEnvironment
  let files ← PassThru.Main.settingsFiles environment arguments
  let outcome := PassThru.CommandLine.run
    { environment
      readFile := (files.lookup ·)
      loadLibrary := PassThru.Main.loadLibrary
      state := () }
    arguments
  for line in outcome.lines do
    IO.println line
  if let some complaint := outcome.complaint then
    IO.eprintln complaint
  return outcome.exitCode.toUInt32
