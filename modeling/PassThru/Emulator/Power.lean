import PassThru.Emulator.Connection

/-!
# Programming voltages

A pin of the diagnostic connector that belongs to no channel can be powered or, if it is the
ground pin, grounded. A pin is powered only while nothing is applied to any other pin.

`millivoltsOn` and `programmingMillivolts` read back what is applied.
-/

namespace PassThru.Emulator

/-- The pin that can be shorted to ground. -/
def groundPin : UInt32 := 15

/-- The pin that carries the vehicle's battery voltage. -/
def batteryPin : UInt32 := 16

def batteryMillivolts : UInt32 := 12600

/-- Apply a voltage, or one of its special values, to a pin. -/
def applyVoltage (pins : Table PinState) (pin voltage : UInt32) : Attempt (Table PinState) :=
  if voltage = Voltage.pinOff then .ok (pins.erase pin)
  else if voltage = Voltage.shortToGround then
    if pin = groundPin then .ok (pins.insert pin .grounded) else .error .pinNotSupported
  else if Voltage.minMillivolts ≤ voltage ∧ voltage ≤ Voltage.maxMillivolts then
    if pins.keys.any (· != pin) then .error .voltageInUse
    else .ok (pins.insert pin (.powered voltage))
  else .error .exceededLimit

/-- What is measured on a pin. -/
def millivoltsOn (pins : Table PinState) (pin : UInt32) : UInt32 :=
  match pins.get? pin with
  | some state => state.millivolts
  | none => if pin = batteryPin then batteryMillivolts else 0

/-- The programming voltage that is applied to whichever pin; zero if none is. -/
def programmingMillivolts (pins : Table PinState) : UInt32 :=
  (pins.values.findSome? fun state =>
    match state with
    | .powered mv => some mv
    | .grounded => none).getD 0

namespace State

/-- Apply a voltage to a pin of a device. -/
def setProgrammingVoltage (s : State) (id : UInt32) (request : PinRequest) (voltage : UInt32) :
    Attempt State := do
  let device ← s.device id
  let pin ← request.single
  Attempt.require (request.connector == Connector.j1962 && isPin pin) .pinNotSupported
  Attempt.require (!s.pinInUse id pin) .pinInUse
  let pins ← applyVoltage device.pins pin voltage
  return { s with devices := s.devices.insert id { device with pins } }

end State

end PassThru.Emulator
