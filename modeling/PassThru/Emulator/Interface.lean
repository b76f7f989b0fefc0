import PassThru.Model.Message
import PassThru.Text.Field

/-!
# Registered interfaces

The emulated library knows a registry of interfaces, listed in the order in which they were
registered. Registering a name again replaces the interface and moves it to the end.
-/

namespace PassThru.Emulator

/-- An interface known to the emulated library. -/
structure Interface where
  name : String
  /-- Whether the interface is plugged in. -/
  connected : Bool := true
  firmwareVersion : String := "1.0.0"
  dllVersion : String := "0.1.0"
  apiVersion : String := "05.00"
  speed : UInt32 := 480000000
  /-- What the vehicle sends once a channel of the frame's protocol is connected. -/
  traffic : List Message := []
  deriving DecidableEq, Repr

/-- The interfaces in order of registration. -/
abbrev Registry : Type := List Interface

namespace Registry

def find? (registry : Registry) (name : String) : Option Interface :=
  List.find? (fun interface => interface.name == name) registry

def isConnected (registry : Registry) (name : String) : Bool :=
  (registry.find? name).any (·.connected)

/-- Add an interface at the end, in place of any of the same name. -/
def register (registry : Registry) (interface : Interface) : Registry :=
  registry.filter (fun other => other.name != interface.name) ++ [interface]

/-- Mark the interface of a name as no longer plugged in. -/
def unplug (registry : Registry) (name : String) : Registry :=
  registry.map fun interface =>
    if interface.name == name then { interface with connected := false } else interface

/-- Connected interfaces `passthru-1` to `passthru-n`. -/
def numbered (n : Nat) : Registry :=
  (List.range n).map fun i => { name := "passthru-" ++ toString (i + 1) }

end Registry

end PassThru.Emulator
