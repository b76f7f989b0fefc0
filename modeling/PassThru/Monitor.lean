import PassThru.Client
import PassThru.Complaint

/-!
# Monitoring a bus

Monitoring a bus opens a device, connects a channel of one protocol on its usual pins, lets every
frame pass, and reads until enough frames were seen or nothing arrives any more.

* Whatever happens after a device was opened or a channel connected, the channel is disconnected
  and the device closed at the end. What these two calls answer does not matter.
* `follow` reads: each read that brings frames lowers the number of frames still wanted, and each
  that brings none lowers the patience, so that the pair of both descends lexicographically.
-/

namespace PassThru

/-! ## Protocols with their wiring -/

/-- A protocol that can be monitored. -/
inductive BusProtocol where
  | j1850vpw
  | j1850pwm
  | iso9141
  | iso14230
  | can
  | j2610
  deriving DecidableEq, Repr

namespace BusProtocol

def protocol : BusProtocol → Protocol
  | j1850vpw => .j1850vpw
  | j1850pwm => .j1850pwm
  | iso9141 => .iso9141
  | iso14230 => .iso14230
  | can => .can
  | j2610 => .j2610

/-- The pins of the J1962 connector that the protocol is wired to. -/
def pins : BusProtocol → List UInt32
  | j1850vpw => [2]
  | j1850pwm => [2, 10]
  | iso9141 | iso14230 | j2610 => [7]
  | can => [6, 14]

/-- How many bytes of a frame a filter has to name. -/
def headerLength : BusProtocol → Nat
  | can => 4
  | _ => 1

/-- Mask and pattern of a filter that every frame with a header passes. -/
def anyFrame (p : BusProtocol) : Message :=
  .outgoing p.protocol (List.replicate p.headerLength 0)

end BusProtocol

/-! ## Monitoring -/

/-- What to monitor, and when to stop. -/
structure Monitor where
  /-- The name of the device. -/
  device : String
  bus : BusProtocol := .can
  /-- The bit rate, if not the usual one of the protocol. -/
  baud : Option UInt32 := none
  /-- How many frames are wanted. -/
  count : Nat := 100
  /-- After how many reads in a row without a frame nothing more is expected. -/
  idleReads : Nat := 3
  deriving DecidableEq, Repr

namespace Monitor

/-- The frames that were seen, and whether monitoring failed. -/
structure Record where
  frames : List Message := []
  result : Except Complaint Unit := .ok ()

/-- A record of nothing but a complaint. -/
def Record.failed (complaint : Complaint) : Record := { result := .error complaint }

/-- The record that starts with further frames. -/
def Record.after (r : Record) (frames : List Message) : Record :=
  { r with frames := frames ++ r.frames }

/-- Whether an error of a read only says that there was nothing to read. -/
def isQuiet (e : Error) : Bool := e.is .timeout || e.is .bufferEmpty

variable {w : Width} {σ : Type}

/-- Read until no more frames are wanted or the patience is used up; a read that brings frames
restores it to `idleReads`. -/
def follow (read : σ → Answer (List Message) × σ) (idleReads : Nat) :
    (wanted patience : Nat) → σ → Record × σ
  | 0, _, state => ({}, state)
  | _ + 1, 0, state => ({}, state)
  | wanted + 1, patience + 1, state =>
    match read state with
    | (.error e, state) =>
      if isQuiet e then follow read idleReads (wanted + 1) patience state
      else (.failed { cause := e }, state)
    | (.ok [], state) => follow read idleReads (wanted + 1) patience state
    | (.ok (frame :: frames), state) =>
      let (record, state) := follow read idleReads (wanted - frames.length) idleReads state
      (record.after (frame :: frames.take wanted), state)
termination_by wanted patience => (wanted, patience)

/-- The bit rate to monitor at. -/
def rate (m : Monitor) : UInt32 := m.baud.getD m.bus.protocol.defaultBaudRate

def onChannel (m : Monitor) (c : Client w σ) (channel : ChannelId) (state : σ) : Record × σ :=
  match c.ask (.startMsgFilter channel .pass m.bus.anyFrame m.bus.anyFrame) state with
  | (.error cause, state) => (.failed { doing := ["failed to install pass filter"], cause }, state)
  | (.ok _, state) => follow (c.readBatch channel) m.idleReads m.count m.idleReads state

def onDevice (m : Monitor) (c : Client w σ) (device : DeviceId) (state : σ) : Record × σ :=
  match c.ask (.connect device m.bus.protocol 0 m.rate (.j1962 m.bus.pins)) state with
  | (.error cause, state) =>
    let doing :=
      "failed to connect " ++ Coded.name m.bus.protocol ++ " at " ++ toString m.rate ++ " baud"
    (.failed { doing := [doing], cause }, state)
  | (.ok channel, state) =>
    let (record, state) := m.onChannel c channel state
    (record, (c.ask (.disconnect channel) state).2)

/-- Monitor a bus. -/
def run (m : Monitor) (c : Client w σ) (state : σ) : Record × σ :=
  match c.ask (.openDevice (some m.device)) state with
  | (.error cause, state) => (.failed { doing := ["failed to open " ++ m.device], cause }, state)
  | (.ok device, state) =>
    let (record, state) := m.onDevice c device state
    (record, (c.ask (.closeDevice device) state).2)

end Monitor

end PassThru
