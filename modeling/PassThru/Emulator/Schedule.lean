import PassThru.Emulator.Argument
import PassThru.Emulator.State

/-!
# Periodic messages and filters

The two tables of a channel that a caller adds to and takes from by handle.
-/

namespace PassThru.Emulator

variable {w : Width}

/-- Whether a periodic message can be sent at an interval of so many milliseconds. -/
def isInterval (interval : UInt32) : Bool := 5 ≤ interval && interval ≤ 65535

/-- The kind of filter that a number asks for. -/
def filterKind (kind : UInt32) : Attempt FilterType :=
  if kind = Coded.code FilterType.pass then .ok .pass
  else if kind = Coded.code FilterType.block then .ok .block
  else .error .filterTypeNotSupported

namespace State

def startPeriodicMsg (s : State) (id : UInt32) (message : NativeMessage w) (interval : UInt32) :
    Attempt (UInt32 × State) := do
  let ch ← s.channel id
  Attempt.require (isInterval interval) .timeIntervalNotSupported
  let message ← readMessage message
  Attempt.require (message.protocolId == ch.protocol.code) .msgProtocolId
  Attempt.require (ch.periodic.size < maxPeriodicMessages) .exceededLimit
  let handle := nextHandle s.issued.periodic
  return (handle,
    { s.setChannel id { ch with periodic := ch.periodic.insert handle { message, interval } } with
      issued := { s.issued with periodic := s.issued.periodic + 1 } })

def stopPeriodicMsg (s : State) (id handle : UInt32) : Attempt State := do
  let ch ← s.channel id
  Attempt.require (ch.periodic.contains handle) .invalidMsgId
  return s.setChannel id { ch with periodic := ch.periodic.erase handle }

def startMsgFilter (s : State) (id kind : UInt32) (mask pattern : NativeMessage w) :
    Attempt (UInt32 × State) := do
  let ch ← s.channel id
  let kind ← filterKind kind
  let mask ← readMessage mask
  let pattern ← readMessage pattern
  Attempt.require
    (mask.protocolId == ch.protocol.code && pattern.protocolId == ch.protocol.code) .msgProtocolId
  Attempt.require
    (!mask.data.isEmpty && mask.data.length == pattern.data.length &&
      mask.data.length ≤ Filter.maxLength) .invalidMsg
  let filter : Filter := { kind, mask := mask.data, pattern := pattern.data }
  Attempt.require (!ch.filters.values.contains filter) .notUnique
  Attempt.require (ch.filters.size < maxFilters) .exceededLimit
  let handle := nextHandle s.issued.filters
  return (handle,
    { s.setChannel id { ch with filters := ch.filters.insert handle filter } with
      issued := { s.issued with filters := s.issued.filters + 1 } })

def stopMsgFilter (s : State) (id handle : UInt32) : Attempt State := do
  let ch ← s.channel id
  Attempt.require (ch.filters.contains handle) .invalidFilterId
  return s.setChannel id { ch with filters := ch.filters.erase handle }

end State

end PassThru.Emulator
