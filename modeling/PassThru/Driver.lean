import PassThru.Native.ChannelSet
import PassThru.Native.Control
import PassThru.Native.Descriptor
import PassThru.Native.Device
import PassThru.Standard.EntryPoint

/-!
# Drivers

A driver is whatever answers the nineteen entry points: a vendor library, or an emulation of one.

`Call w` is a call with its arguments at native width `w`. An argument that the interface passes by
pointer is an `Option`: `none` is a null pointer, and otherwise it holds what the pointer refers to
when the call is made. `Call.Memory` is the memory that a call hands over for writing, and
`Call.memory` its content at the call; a `Reply` holds a status and that memory afterwards.

`Driver w σ` answers calls on a state of type `σ`.
-/

namespace PassThru

/-- A call of an entry point. -/
inductive Call (w : Width) where
  | scanForDevices (count : Option (Word w))
  | getNextDevice (device : Option (NativeDevice w))
  | openDevice (name : Option (List UInt8)) (device : Option (Word w))
  | closeDevice (device : Word w)
  | connect (device protocol flags baud : Word w) (resource : NativeResource w)
      (channel : Option (Word w))
  | disconnect (channel : Word w)
  | logicalConnect (physical protocol flags : Word w) (descriptor : Option (NativeDescriptor w))
      (channel : Option (Word w))
  | logicalDisconnect (channel : Word w)
  | select (set : Option (NativeChannelSet w)) (kind timeout : Word w)
  | readMsgs (channel : Word w) (slots : Option (List (NativeMessage w)))
      (count : Option (Word w)) (timeout : Word w)
  | queueMsgs (channel : Word w) (messages : Option (List (NativeMessage w)))
      (count : Option (Word w))
  | startPeriodicMsg (channel : Word w) (message : Option (NativeMessage w))
      (id : Option (Word w)) (interval : Word w)
  | stopPeriodicMsg (channel id : Word w)
  | startMsgFilter (channel kind : Word w) (mask pattern : Option (NativeMessage w))
      (id : Option (Word w))
  | stopMsgFilter (channel id : Word w)
  | setProgrammingVoltage (device : Word w) (resource : NativeResource w) (voltage : Word w)
  | readVersion (device : Word w) (firmware dll api : Option (List UInt8))
  | getLastError (text : Option (List UInt8))
  | ioctl (target id : Word w) (input output : NativeControl w)
  deriving DecidableEq

/-- The memory of a receiving or queueing call: message slots and the count of them. -/
structure MessageMemory (w : Width) where
  slots : Option (List (NativeMessage w))
  count : Option (Word w)
  deriving DecidableEq

/-- The memory of a version query. -/
structure VersionMemory where
  firmware : Option (List UInt8)
  dll : Option (List UInt8)
  api : Option (List UInt8)
  deriving DecidableEq

/-- The memory of a control request. -/
structure ControlMemory (w : Width) where
  input : NativeControl w
  output : NativeControl w
  deriving DecidableEq

namespace Call

variable {w : Width}

def entry : Call w → EntryPoint
  | scanForDevices .. => .scanForDevices
  | getNextDevice .. => .getNextDevice
  | openDevice .. => .openDevice
  | closeDevice .. => .closeDevice
  | connect .. => .connect
  | disconnect .. => .disconnect
  | logicalConnect .. => .logicalConnect
  | logicalDisconnect .. => .logicalDisconnect
  | select .. => .select
  | readMsgs .. => .readMsgs
  | queueMsgs .. => .queueMsgs
  | startPeriodicMsg .. => .startPeriodicMsg
  | stopPeriodicMsg .. => .stopPeriodicMsg
  | startMsgFilter .. => .startMsgFilter
  | stopMsgFilter .. => .stopMsgFilter
  | setProgrammingVoltage .. => .setProgrammingVoltage
  | readVersion .. => .readVersion
  | getLastError .. => .getLastError
  | ioctl .. => .ioctl

/-- The memory that an entry point may write. -/
abbrev Memory : Call w → Type
  | scanForDevices .. => Option (Word w)
  | getNextDevice .. => Option (NativeDevice w)
  | openDevice .. => Option (Word w)
  | closeDevice .. => Unit
  | connect .. => Option (Word w)
  | disconnect .. => Unit
  | logicalConnect .. => Option (Word w)
  | logicalDisconnect .. => Unit
  | select .. => Option (NativeChannelSet w)
  | readMsgs .. => MessageMemory w
  | queueMsgs .. => MessageMemory w
  | startPeriodicMsg .. => Option (Word w)
  | stopPeriodicMsg .. => Unit
  | startMsgFilter .. => Option (Word w)
  | stopMsgFilter .. => Unit
  | setProgrammingVoltage .. => Unit
  | readVersion .. => VersionMemory
  | getLastError .. => Option (List UInt8)
  | ioctl .. => ControlMemory w

/-- What that memory holds when the call is made. -/
def memory : (call : Call w) → call.Memory
  | scanForDevices count => count
  | getNextDevice device => device
  | openDevice _ device => device
  | closeDevice _ => ()
  | connect _ _ _ _ _ channel => channel
  | disconnect _ => ()
  | logicalConnect _ _ _ _ channel => channel
  | logicalDisconnect _ => ()
  | select set _ _ => set
  | readMsgs _ slots count _ => ⟨slots, count⟩
  | queueMsgs _ messages count => ⟨messages, count⟩
  | startPeriodicMsg _ _ id _ => id
  | stopPeriodicMsg _ _ => ()
  | startMsgFilter _ _ _ _ id => id
  | stopMsgFilter _ _ => ()
  | setProgrammingVoltage _ _ _ => ()
  | readVersion _ firmware dll api => ⟨firmware, dll, api⟩
  | getLastError text => text
  | ioctl _ _ input output => ⟨input, output⟩

end Call

/-- The answer to a call: its status, and the memory it was handed. -/
structure Reply {w : Width} (call : Call w) where
  status : Status
  memory : call.Memory

/-- The answer that leaves the memory as it was. -/
def Reply.untouched {w : Width} (call : Call w) (status : Status) : Reply call :=
  ⟨status, call.memory⟩

/-- Answers calls, on a state that it may change. -/
abbrev Driver (w : Width) (σ : Type) : Type :=
  (call : Call w) → σ → Reply call × σ

/-- A driver that keeps the list of the calls it was given, in order. -/
def Driver.recording {w : Width} {σ : Type} (driver : Driver w σ) :
    Driver w (σ × List (Call w)) :=
  fun call (state, calls) =>
    let (reply, state) := driver call state
    (reply, (state, calls ++ [call]))

end PassThru
