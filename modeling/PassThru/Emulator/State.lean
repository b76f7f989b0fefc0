import PassThru.Emulator.Channel
import PassThru.Emulator.Interface
import PassThru.Model.Device
import PassThru.Standard.EntryPoint

/-!
# The state of the emulated library

The registry, the last scan, the open devices and channels, how many handles of each kind were
issued, the clock, and the last failure.
-/

namespace PassThru.Emulator

/-- What is applied to a pin. -/
inductive PinState where
  | grounded
  | powered (millivolts : UInt32)
  deriving DecidableEq, Repr

namespace PinState

/-- The voltage of a pin; a grounded one has none. -/
def millivolts : PinState → UInt32
  | grounded => 0
  | powered mv => mv

/-- The number that applies the state to a pin. -/
def code : PinState → UInt32
  | grounded => Voltage.shortToGround
  | powered mv => mv

end PinState

/-- An open device. -/
structure OpenDevice where
  name : String
  /-- The pins that something is applied to. -/
  pins : Table PinState := .empty
  deriving DecidableEq

/-- How many handles of each kind were issued. -/
structure Issued where
  devices : Nat := 0
  channels : Nat := 0
  filters : Nat := 0
  periodic : Nat := 0
  deriving DecidableEq, Repr

/-- The handle that is issued after `issued` others of its kind. -/
def nextHandle (issued : Nat) : UInt32 := UInt32.ofNat (issued + 1)

/-- A call that failed, and why. -/
structure Failure where
  entry : EntryPoint
  code : ErrorCode
  deriving DecidableEq, Repr

/-- A failed call in words. -/
def Failure.message (f : Failure) : String := f.entry.symbol ++ ": " ++ f.code.description

/-- The state of the emulated library. -/
structure State where
  registry : Registry := []
  /-- What the last scan found. -/
  scan : Option (List Device) := none
  /-- How many devices of that scan were delivered. -/
  cursor : Nat := 0
  devices : Table OpenDevice := .empty
  channels : Table Channel := .empty
  issued : Issued := {}
  /-- Microseconds. -/
  clock : UInt32 := 0
  lastFailure : Option Failure := none
  deriving DecidableEq

namespace State

/-- The state of a library that nothing was done with. -/
def initial (registry : Registry) : State := { registry }

/-- The text about the last failed call. -/
def lastError (s : State) : String := (s.lastFailure.map Failure.message).getD ""

/-- Whether the interface of a name is open. -/
def isOpen (s : State) (name : String) : Bool :=
  s.devices.values.any fun device => device.name == name

/-- An open device whose interface is plugged in. -/
def device (s : State) (id : UInt32) : Attempt OpenDevice := do
  Attempt.require (!s.devices.isEmpty) .deviceNotOpen
  match s.devices.get? id with
  | none => .error .invalidDeviceId
  | some device =>
    Attempt.require (s.registry.isConnected device.name) .deviceNotConnected
    return device

/-- An open channel. -/
def channel (s : State) (id : UInt32) : Attempt Channel :=
  match s.channels.get? id with
  | some ch => .ok ch
  | none => .error .invalidChannelId

def setChannel (s : State) (id : UInt32) (ch : Channel) : State :=
  { s with channels := s.channels.insert id ch }

/-- The open channels of a device. -/
def channelsOf (s : State) (device : UInt32) : List Channel :=
  s.channels.values.filter fun ch => ch.device == device

/-! ## The registry and the vehicle -/

/-- Register an interface; its name has to fit the name field of a device. -/
def register (s : State) (interface : Interface) : Answer State := do
  let _ ← Field.encode "name" interface.name
  return { s with registry := s.registry.register interface }

/-- Unplug the interface of a name. -/
def unplug (s : State) (name : String) : State :=
  { s with registry := s.registry.unplug name }

/-- Put a frame on the bus of a channel, if it is open. -/
def inject (s : State) (id : UInt32) (frame : Message) : State :=
  match s.channels.get? id with
  | some ch => s.setChannel id { ch with bus := ch.bus ++ [frame] }
  | none => s

def filterCount (s : State) (id : UInt32) : Nat :=
  ((s.channels.get? id).map fun ch => ch.filters.size).getD 0

def periodicCount (s : State) (id : UInt32) : Nat :=
  ((s.channels.get? id).map fun ch => ch.periodic.size).getD 0

/-- What is applied to a pin of an open device. -/
def pinState? (s : State) (device pin : UInt32) : Option PinState :=
  (s.devices.get? device).bind fun device => device.pins.get? pin

end State

end PassThru.Emulator
