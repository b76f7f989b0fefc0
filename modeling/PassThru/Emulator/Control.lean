import PassThru.Emulator.Power

/-!
# Control requests

What each control request checks, in which order, and what it does. A query of configuration
parameters answers in the list it was given and stops at the first parameter that does not exist;
every other request does all of its work or none.
-/

namespace PassThru.Emulator

variable {w : Width}

/-- The key bytes that a five-baud initialization answers. -/
def keyBytes : List UInt8 := [0x08, 0x08]

/-- Add a functional address to those that are looked up. -/
def addFunctional (addresses : List UInt8) (address : UInt8) : List UInt8 :=
  addresses.filter (· < address) ++ address :: addresses.filter (address < ·)

/-- Take a functional address from those that are looked up. -/
def deleteFunctional (addresses : List UInt8) (address : UInt8) : List UInt8 :=
  addresses.filter (· != address)

def requireNull (argument : NativeControl w) : Attempt Unit :=
  Attempt.require argument.isNull .nullRequired

def requirePresent (argument : NativeControl w) : Attempt Unit :=
  Attempt.require (!argument.isNull) .nullParameter

/-- Fill in the values of parameters, as far as the first that does not exist. -/
def fillSettings (ch : Channel) :
    List (NativeSetting w) → List (NativeSetting w) × Option ErrorCode
  | [] => ([], none)
  | entry :: rest =>
    match ch.setting entry.parameter.narrow with
    | .error code => (entry :: rest, some code)
    | .ok value =>
      let (filled, failure) := fillSettings ch rest
      ({ entry with value := .of32 value } :: filled, failure)

/-- The answer of the vehicle's controller to a fast initialization: target and source change
places, and the service is confirmed. -/
def fastInitResponse (protocol : Protocol) (request : List UInt8) : Message where
  protocolId := protocol.code
  data := [0x83, request.getD 2 0, request.getD 1 0, 0xC1, 0xEF, 0x8F]

namespace State

def getConfig (s : State) (target : UInt32) (input output : NativeControl w) :
    Attempt (NativeControl w × Option ErrorCode) := do
  requireNull output
  let ch ← s.channel target
  let entries ← readSettings input
  let (filled, failure) := fillSettings ch entries
  return (input.withSettings filled, failure)

/-- Set configuration parameters, all of them or none. -/
def setConfig (s : State) (target : UInt32) (input output : NativeControl w) : Attempt State := do
  requireNull output
  let ch ← s.channel target
  let entries ← readSettings input
  let settings := entries.map fun entry => (entry.parameter.narrow, entry.value.narrow)
  settings.forM fun (parameter, value) => Channel.checkSetting parameter value
  return s.setChannel target
    { ch with
      settings := settings.foldl (fun table (parameter, value) => table.insert parameter value)
        ch.settings }

def readPinVoltage (s : State) (target : UInt32) (input output : NativeControl w) :
    Attempt (NativeControl w) := do
  let device ← s.device target
  requirePresent input
  requirePresent output
  let request ← readPins input
  let pin ← request.single
  return output.withNumber (millivoltsOn device.pins pin)

def readProgVoltage (s : State) (target : UInt32) (input output : NativeControl w) :
    Attempt (NativeControl w) := do
  let device ← s.device target
  requireNull input
  requirePresent output
  return output.withNumber (programmingMillivolts device.pins)

def fiveBaudInit (s : State) (target : UInt32) (input output : NativeControl w) :
    Attempt (NativeControl w) := do
  let ch ← s.channel target
  Attempt.require (ch.protocol == .iso9141 || ch.protocol == .iso14230) .ioctlIdNotSupported
  requirePresent output
  let address ← readBytes input
  Attempt.require (address.length == 1) .invalidMsg
  match output with
  | .bytes { count, bytes := some bytes } =>
    Attempt.require (keyBytes.length ≤ count.narrow.toNat) .bufferTooSmall
    return .bytes {
      count := .of32 (UInt32.ofNat keyBytes.length)
      bytes := some (keyBytes ++ bytes.drop keyBytes.length) }
  | _ => .error .bufferTooSmall

def fastInit (s : State) (target : UInt32) (input output : NativeControl w) :
    Attempt (NativeControl w) := do
  let ch ← s.channel target
  Attempt.require (ch.protocol == .iso14230) .ioctlIdNotSupported
  requirePresent input
  requirePresent output
  match input, output with
  | .message request, .message slot =>
    let request ← readMessage request
    Attempt.require (4 ≤ request.data.length) .invalidMsg
    match slot.write (fastInitResponse ch.protocol request.data) with
    | .ok filled => return .message filled
    | .error _ => .error .bufferTooSmall
  | _, _ => .error .invalidMsg

/-- What a request without arguments makes of a channel. -/
def cleared (request : Ioctl) (ch : Channel) : Attempt Channel :=
  match request with
  | .clearRxQueue => .ok { ch with bus := [], rx := [] }
  | .clearPeriodicMsgs => .ok { ch with periodic := .empty }
  | .clearMsgFilters => .ok { ch with filters := .empty }
  | .clearFunctMsgLookupTable => .ok { ch with functional := [] }
  | .busOn => if ch.protocol = .can then .ok ch else .error .ioctlIdNotSupported
  | _ => .ok ch

/-- A request without arguments. -/
def clear (s : State) (request : Ioctl) (target : UInt32) (input output : NativeControl w) :
    Attempt State := do
  requireNull input
  requireNull output
  let ch ← s.channel target
  let ch ← cleared request ch
  return s.setChannel target ch

/-- Change the functional addresses that are looked up. -/
def changeFunctional (s : State) (change : List UInt8 → UInt8 → List UInt8) (target : UInt32)
    (input output : NativeControl w) : Attempt State := do
  requireNull output
  let ch ← s.channel target
  Attempt.require (ch.protocol == .j1850pwm) .ioctlIdNotSupported
  let addresses ← readBytes input
  return s.setChannel target { ch with functional := addresses.foldl change ch.functional }

end State

end PassThru.Emulator
