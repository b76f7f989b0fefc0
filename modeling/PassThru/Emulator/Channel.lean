import PassThru.Emulator.Attempt
import PassThru.Emulator.Filter
import PassThru.Emulator.Table
import PassThru.Model.Descriptor
import PassThru.Standard.Parameter

/-!
# Channels

A channel is attached to pins of its device, or stands on top of another channel. Frames wait on
its bus until a call looks at the channel; those that its filters admit then move to its receive
queue and are stamped with the time.

* `Channel.pump` is that move; the clock goes on by one tick for each admitted frame.
* `Channel.setting` and `Channel.checkSetting` are the rules of its configuration.
-/

namespace PassThru.Emulator

/-- What a channel stands on. -/
inductive Attachment where
  | physical (pins : List UInt32)
  | logical (parent : UInt32) (localAddress remoteAddress : Address)
  deriving DecidableEq, Repr

/-- A message that the library sends at intervals. -/
structure PeriodicMessage where
  message : Message
  /-- Milliseconds between two transmissions. -/
  interval : UInt32
  deriving DecidableEq, Repr

/-- An open channel. -/
structure Channel where
  device : UInt32
  protocol : Protocol
  attachment : Attachment
  settings : Table UInt32 := .empty
  filters : Table Filter := .empty
  periodic : Table PeriodicMessage := .empty
  /-- The functional addresses that are looked up, in ascending order. -/
  functional : List UInt8 := []
  /-- Frames that have not been looked at. -/
  bus : List Message := []
  /-- Frames that can be read. -/
  rx : List Message := []
  deriving DecidableEq

def maxFilters : Nat := 10

def maxPeriodicMessages : Nat := 10

def maxLogicalChannels : Nat := 10

/-- Microseconds between two admitted frames. -/
def tick : UInt32 := 1000

/-- Frames with the times at which they are admitted one after the other. -/
def stampFrom (clock : UInt32) : List Message → List Message
  | [] => []
  | frame :: rest => { frame with timestamp := clock + tick } :: stampFrom (clock + tick) rest

/-- The clock after a number of frames was admitted. -/
def clockAfter (clock : UInt32) : Nat → UInt32
  | 0 => clock
  | n + 1 => clockAfter (clock + tick) n

namespace Channel

/-- The channel that a logical channel stands on. -/
def parent? (ch : Channel) : Option UInt32 :=
  match ch.attachment with
  | .physical _ => none
  | .logical parent _ _ => some parent

/-- The pins of a physical channel; a logical one has none. -/
def pins (ch : Channel) : List UInt32 :=
  match ch.attachment with
  | .physical pins => pins
  | .logical .. => []

/-- The two addresses of a logical channel. -/
def addresses? (ch : Channel) : Option (Address × Address) :=
  match ch.attachment with
  | .physical _ => none
  | .logical _ localAddress remoteAddress => some (localAddress, remoteAddress)

/-! ## Reception -/

/-- Whether a frame gets through the filters. -/
def admits (ch : Channel) (frame : Message) : Bool := Filter.admits ch.filters.values frame.data

/-- The frames on the bus that get through the filters. -/
def admitted (ch : Channel) : List Message := ch.bus.filter ch.admits

/-- The channel after the frames on its bus have arrived. -/
def pump (ch : Channel) (clock : UInt32) : Channel :=
  { ch with bus := [], rx := ch.rx ++ stampFrom clock ch.admitted }

/-! ## Configuration -/

/-- Whether transmitted frames come back as echoes. -/
def loopback (ch : Channel) : Bool := ch.settings.get? Parameter.loopback == some 1

/-- The value of a parameter; one that was never set is zero. -/
def setting (ch : Channel) (parameter : UInt32) : Attempt UInt32 := do
  Attempt.require (Parameter.isDefined parameter) .ioctlParamIdNotSupported
  return (ch.settings.get? parameter).getD 0

/-- Whether a parameter may be given a value. -/
def checkSetting (parameter value : UInt32) : Attempt Unit := do
  Attempt.require (Parameter.isDefined parameter) .ioctlParamIdNotSupported
  Attempt.require (!(parameter == Parameter.dataRate && value == 0)) .ioctlValueNotSupported
  Attempt.require (!(parameter == Parameter.loopback && 1 < value)) .ioctlValueNotSupported

end Channel

end PassThru.Emulator
