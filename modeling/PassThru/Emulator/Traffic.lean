import PassThru.Emulator.Argument
import PassThru.Emulator.State
import PassThru.Native.ChannelSet

/-!
# Traffic

Reading, selecting and queueing. These are the calls that can fail half way: what was done before
the fault stays done, and the answer says how much that was.

* `State.pump` lets the frames on a channel's bus arrive.
* `deliver` hands frames over into message slots and stops at a slot that is too small.
* `accept` takes messages for transmission and stops at the first bad one.
-/

namespace PassThru.Emulator

variable {w : Width}

/-- Let the frames on a channel's bus arrive. -/
def State.pump (s : State) (id : UInt32) : Attempt (Channel × State) := do
  let ch ← s.channel id
  let pumped := ch.pump s.clock
  return (pumped,
    { s.setChannel id pumped with clock := clockAfter s.clock ch.admitted.length })

/-! ## Selecting -/

/-- Pump channels one after the other and list those that can be read; an unknown channel ends
the walk. -/
def State.readyAmong : List UInt32 → State → Attempt (List UInt32) × State
  | [], s => (.ok [], s)
  | id :: ids, s =>
    match s.pump id with
    | .error code => (.error code, s)
    | .ok (ch, s) =>
      let (ready, s) := State.readyAmong ids s
      (ready.map fun ready => if ch.rx.isEmpty then ready else id :: ready, s)

/-- The channels that a select is asked about, and how many of them have to be ready. -/
def selectArguments (set : Option (NativeChannelSet w)) (kind : UInt32) :
    Attempt (NativeChannelSet w × List UInt32) := do
  let set ← Attempt.present set
  Attempt.require (kind == Coded.code SelectType.readable) .selectTypeNotSupported
  let ids ← readList set.count set.list
  Attempt.require (!ids.isEmpty) .nullParameter
  Attempt.require (set.threshold.narrow.toNat ≤ ids.length) .exceededLimit
  return (set, ids.map Word.narrow)

/-- A channel set that lists the channels that are ready. -/
def answerSelect (set : NativeChannelSet w) (ready : List UInt32) : NativeChannelSet w where
  count := .of32 (UInt32.ofNat ready.length)
  threshold := set.threshold
  list := set.list.map fun list => ready.map Word.of32 ++ list.drop ready.length

/-! ## Reading -/

/-- Frames handed over into slots. -/
structure Delivery (w : Width) where
  /-- All slots, the first `count` of them filled. -/
  slots : List (NativeMessage w)
  /-- The frames that were not handed over. -/
  left : List Message
  count : Nat
  /-- Whether a frame did not fit its slot. -/
  refused : Bool

/-- Hand over at most `n` frames, one into each slot. -/
def deliver : Nat → List Message → List (NativeMessage w) → Delivery w
  | n + 1, frame :: frames, slot :: slots =>
    match slot.write frame with
    | .error _ => ⟨slot :: slots, frame :: frames, 0, true⟩
    | .ok filled =>
      let rest := deliver n frames slots
      ⟨filled :: rest.slots, rest.left, rest.count + 1, rest.refused⟩
  | _, frames, slots => ⟨slots, frames, 0, false⟩

/-- How a read for `requested` frames ends. -/
def Delivery.failure? (delivery : Delivery w) (requested : Nat) (timeout : UInt32) :
    Option ErrorCode :=
  if delivery.refused then some .bufferTooSmall
  else if 0 < requested ∧ delivery.count = 0 then
    some (if timeout = 0 then .bufferEmpty else .timeout)
  else if delivery.count < requested ∧ timeout ≠ 0 then some .timeout
  else none

/-! ## Queueing -/

/-- The messages in front of the first that cannot be sent on a channel, and what is wrong with
that one. -/
def accept (protocol : Protocol) : List (NativeMessage w) → List Message × Option ErrorCode
  | [] => ([], none)
  | message :: rest =>
    match message.read with
    | .error _ => ([], some .invalidMsg)
    | .ok frame =>
      if frame.protocolId ≠ protocol.code then ([], some .msgProtocolId)
      else if frame.data = [] then ([], some .invalidMsg)
      else
        let (frames, failure) := accept protocol rest
        (frame :: frames, failure)

/-- The frame that comes back when a message is sent with loopback on. -/
def echo (frame : Message) : Message := { frame with rxStatus := txMsgType, txFlags := 0 }

/-- A channel after messages were sent on it. -/
def Channel.transmit (ch : Channel) (frames : List Message) : Channel :=
  if ch.loopback then { ch with bus := ch.bus ++ frames.map echo } else ch

end PassThru.Emulator
