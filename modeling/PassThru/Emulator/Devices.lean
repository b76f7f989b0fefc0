import PassThru.Emulator.State

/-!
# Scanning and opening devices

A scan takes a picture of the registry; the devices of that picture are delivered one by one,
whatever happens to the registry in the meantime. Opening a device needs its interface plugged in
and not open yet; closing it closes its channels.
-/

namespace PassThru.Emulator

namespace State

/-- An interface as a scan reports it. -/
def describe (s : State) (interface : Interface) : Device where
  name := interface.name
  availability :=
    if s.isOpen interface.name then Availability.inUse
    else if interface.connected then Availability.available
    else Availability.unknown
  firmwareStatus := FirmwareStatus.compatible
  media := Media.wired
  speed := interface.speed
  signalQuality := if interface.connected then 100 else 0
  signalStrength := if interface.connected then 100 else 0

/-- What a scan finds. -/
def snapshot (s : State) : List Device := s.registry.map s.describe

/-- Scan, and answer how many devices were found. -/
def scanForDevices (s : State) : UInt32 × State :=
  (UInt32.ofNat s.snapshot.length, { s with scan := some s.snapshot, cursor := 0 })

def nextDevice (s : State) : Attempt Device :=
  match s.scan with
  | none => .error .bufferEmpty
  | some devices =>
    if devices.isEmpty then .error .bufferEmpty
    else
      match devices[s.cursor]? with
      | some device => .ok device
      | none => .error .exceededLimit

def openDevice (s : State) (name : String) : Attempt (UInt32 × State) := do
  Attempt.require (name != "") .nullParameter
  Attempt.require (s.registry.isConnected name) .deviceNotConnected
  Attempt.require (!s.isOpen name) .deviceInUse
  let id := nextHandle s.issued.devices
  return (id,
    { s with
      devices := s.devices.insert id { name }
      issued := { s.issued with devices := s.issued.devices + 1 } })

def closeDevice (s : State) (id : UInt32) : Attempt State := do
  Attempt.require (!s.devices.isEmpty) .deviceNotOpen
  Attempt.require (s.devices.contains id) .invalidDeviceId
  return { s with
    devices := s.devices.erase id
    channels := s.channels.filter fun _ ch => ch.device != id }

end State

end PassThru.Emulator
