import PassThru.Standard.Coded

/-!
# Control requests

A control request names what it reads and what it fills by a shape each. The shapes decide how the
two untyped arguments of the entry point are laid out.
-/

namespace PassThru

/-- A control request. -/
inductive Ioctl where
  | getConfig
  | setConfig
  | readPinVoltage
  | fiveBaudInit
  | fastInit
  | clearTxQueue
  | clearRxQueue
  | clearPeriodicMsgs
  | clearMsgFilters
  | clearFunctMsgLookupTable
  | addToFunctMsgLookupTable
  | deleteFromFunctMsgLookupTable
  | readProgVoltage
  | busOn
  deriving DecidableEq, Repr

namespace Ioctl

instance : Coded Ioctl where
  all :=
    [.getConfig, .setConfig, .readPinVoltage, .fiveBaudInit, .fastInit, .clearTxQueue,
      .clearRxQueue, .clearPeriodicMsgs, .clearMsgFilters, .clearFunctMsgLookupTable,
      .addToFunctMsgLookupTable, .deleteFromFunctMsgLookupTable, .readProgVoltage, .busOn]
  code
    | .getConfig => 0x01
    | .setConfig => 0x02
    | .readPinVoltage => 0x03
    | .fiveBaudInit => 0x04
    | .fastInit => 0x05
    | .clearTxQueue => 0x07
    | .clearRxQueue => 0x08
    | .clearPeriodicMsgs => 0x09
    | .clearMsgFilters => 0x0A
    | .clearFunctMsgLookupTable => 0x0B
    | .addToFunctMsgLookupTable => 0x0C
    | .deleteFromFunctMsgLookupTable => 0x0D
    | .readProgVoltage => 0x0E
    | .busOn => 0x0F
  name
    | .getConfig => "GetConfig"
    | .setConfig => "SetConfig"
    | .readPinVoltage => "ReadPinVoltage"
    | .fiveBaudInit => "FiveBaudInit"
    | .fastInit => "FastInit"
    | .clearTxQueue => "ClearTxQueue"
    | .clearRxQueue => "ClearRxQueue"
    | .clearPeriodicMsgs => "ClearPeriodicMsgs"
    | .clearMsgFilters => "ClearMsgFilters"
    | .clearFunctMsgLookupTable => "ClearFunctMsgLookupTable"
    | .addToFunctMsgLookupTable => "AddToFunctMsgLookupTable"
    | .deleteFromFunctMsgLookupTable => "DeleteFromFunctMsgLookupTable"
    | .readProgVoltage => "ReadProgVoltage"
    | .busOn => "BusOn"

def code (r : Ioctl) : UInt32 := Coded.code r

def ofCode? (n : UInt32) : Option Ioctl :=
  match n with
  | 0x01 => some .getConfig
  | 0x02 => some .setConfig
  | 0x03 => some .readPinVoltage
  | 0x04 => some .fiveBaudInit
  | 0x05 => some .fastInit
  | 0x07 => some .clearTxQueue
  | 0x08 => some .clearRxQueue
  | 0x09 => some .clearPeriodicMsgs
  | 0x0A => some .clearMsgFilters
  | 0x0B => some .clearFunctMsgLookupTable
  | 0x0C => some .addToFunctMsgLookupTable
  | 0x0D => some .deleteFromFunctMsgLookupTable
  | 0x0E => some .readProgVoltage
  | 0x0F => some .busOn
  | _ => none

/-- What an argument of a control request holds. -/
inductive Shape where
  | none
  | configList
  | bytes
  | message
  | resource
  | voltage
  deriving DecidableEq, Repr

/-- A shape in words, for a message about a wrong argument. -/
def Shape.name : Shape → String
  | .none => "no argument"
  | .configList => "a configuration list"
  | .bytes => "a byte array"
  | .message => "a message"
  | .resource => "a resource"
  | .voltage => "a voltage"

/-- What a request reads. -/
def inputShape : Ioctl → Shape
  | getConfig | setConfig => .configList
  | readPinVoltage => .resource
  | fiveBaudInit | addToFunctMsgLookupTable | deleteFromFunctMsgLookupTable => .bytes
  | fastInit => .message
  | clearTxQueue | clearRxQueue | clearPeriodicMsgs | clearMsgFilters
  | clearFunctMsgLookupTable | readProgVoltage | busOn => .none

/-- What a request fills. -/
def outputShape : Ioctl → Shape
  | getConfig => .configList
  | readPinVoltage | readProgVoltage => .voltage
  | fiveBaudInit => .bytes
  | fastInit => .message
  | setConfig | clearTxQueue | clearRxQueue | clearPeriodicMsgs | clearMsgFilters
  | clearFunctMsgLookupTable | addToFunctMsgLookupTable | deleteFromFunctMsgLookupTable
  | busOn => .none

end Ioctl

end PassThru
