import PassThru.Emulator.Attempt
import PassThru.Native.Control

/-!
# Arguments as the library sees them

The emulated library narrows every number it is given to 32 bits and reads a counted list as far as
its count says. An empty list may come with a null pointer; any other null pointer is a fault.
-/

namespace PassThru.Emulator

variable {w : Width}

/-- The items of a counted list. -/
def readList {α : Type} (count : Word w) (list : Option (List α)) : Attempt (List α) :=
  if count.narrow = 0 then .ok []
  else (Attempt.present list).map (·.take count.narrow.toNat)

/-- Pins as they were handed over; reading the list may fail. -/
structure PinRequest where
  connector : UInt32
  pins : Attempt (List UInt32)

/-- The pins of a resource structure. -/
def PinRequest.ofNative (resource : NativeResource w) : PinRequest where
  connector := resource.connector.narrow
  pins := (readList resource.count resource.list).map (·.map Word.narrow)

/-- The one pin of a request for a single pin. -/
def PinRequest.single (request : PinRequest) : Attempt UInt32 := do
  match ← request.pins with
  | [pin] => return pin
  | _ => .error .pinNotSupported

/-- Whether a pin exists on the diagnostic connector. -/
def isPin (pin : UInt32) : Bool := 1 ≤ pin && pin ≤ 16

def readSettings : NativeControl w → Attempt (List (NativeSetting w))
  | .configList list => readList list.count list.list
  | _ => .error .nullParameter

def readBytes : NativeControl w → Attempt (List UInt8)
  | .bytes array => readList array.count array.bytes
  | _ => .error .nullParameter

def readPins : NativeControl w → Attempt PinRequest
  | .resource resource => .ok (.ofNative resource)
  | _ => .error .nullParameter

def readMessage (message : NativeMessage w) : Attempt Message :=
  match message.read with
  | .ok message => .ok message
  | .error _ => .error .invalidMsg

end PassThru.Emulator
