/-!
# Status codes

Every entry point answers a native status: zero for success, otherwise the code of a failure. The
38 codes of SAE J2534-1 have a constructor each; a nonzero status outside that table is kept as
`ErrorCode.unknown`, so a failure never loses the number that the library reported.

`ErrorCode.ofStatus` reads a status and `ErrorCode.code` writes it back: two tables, row by row.
-/

namespace PassThru

/-- The native answer of an entry point. -/
abbrev Status : Type := Int

/-- The one status that reports success. -/
def Status.noError : Status := 0

/-- The failures an entry point can report. -/
inductive ErrorCode where
  | notSupported
  | invalidChannelId
  | protocolIdNotSupported
  | nullParameter
  | ioctlValueNotSupported
  | flagNotSupported
  | failed
  | deviceNotConnected
  | timeout
  | invalidMsg
  | timeIntervalNotSupported
  | exceededLimit
  | invalidMsgId
  | deviceInUse
  | ioctlIdNotSupported
  | bufferEmpty
  | bufferFull
  | bufferOverflow
  | pinNotSupported
  | resourceConflict
  | msgProtocolId
  | invalidFilterId
  | noFlowControl
  | notUnique
  | baudrateNotSupported
  | invalidDeviceId
  | deviceNotOpen
  | nullRequired
  | filterTypeNotSupported
  | ioctlParamIdNotSupported
  | voltageInUse
  | pinInUse
  | initFailed
  | openFailed
  | bufferTooSmall
  | logChanNotAllowed
  | selectTypeNotSupported
  | concurrentApiCall
  /-- A nonzero status outside the vendor table. -/
  | unknown (code : Int)
  deriving DecidableEq, Repr

namespace ErrorCode

/-- The codes of the vendor table, in table order. -/
def all : List ErrorCode :=
  [notSupported, invalidChannelId, protocolIdNotSupported, nullParameter, ioctlValueNotSupported,
    flagNotSupported, failed, deviceNotConnected, timeout, invalidMsg, timeIntervalNotSupported,
    exceededLimit, invalidMsgId, deviceInUse, ioctlIdNotSupported, bufferEmpty, bufferFull,
    bufferOverflow, pinNotSupported, resourceConflict, msgProtocolId, invalidFilterId,
    noFlowControl, notUnique, baudrateNotSupported, invalidDeviceId, deviceNotOpen, nullRequired,
    filterTypeNotSupported, ioctlParamIdNotSupported, voltageInUse, pinInUse, initFailed,
    openFailed, bufferTooSmall, logChanNotAllowed, selectTypeNotSupported, concurrentApiCall]

/-- The number of a code. -/
def code : ErrorCode → Int
  | notSupported => 0x01
  | invalidChannelId => 0x02
  | protocolIdNotSupported => 0x03
  | nullParameter => 0x04
  | ioctlValueNotSupported => 0x05
  | flagNotSupported => 0x06
  | failed => 0x07
  | deviceNotConnected => 0x08
  | timeout => 0x09
  | invalidMsg => 0x0A
  | timeIntervalNotSupported => 0x0B
  | exceededLimit => 0x0C
  | invalidMsgId => 0x0D
  | deviceInUse => 0x0E
  | ioctlIdNotSupported => 0x0F
  | bufferEmpty => 0x10
  | bufferFull => 0x11
  | bufferOverflow => 0x12
  | pinNotSupported => 0x13
  | resourceConflict => 0x14
  | msgProtocolId => 0x15
  | invalidFilterId => 0x16
  | noFlowControl => 0x17
  | notUnique => 0x18
  | baudrateNotSupported => 0x19
  | invalidDeviceId => 0x1A
  | deviceNotOpen => 0x1B
  | nullRequired => 0x1C
  | filterTypeNotSupported => 0x1D
  | ioctlParamIdNotSupported => 0x1E
  | voltageInUse => 0x1F
  | pinInUse => 0x20
  | initFailed => 0x21
  | openFailed => 0x22
  | bufferTooSmall => 0x23
  | logChanNotAllowed => 0x24
  | selectTypeNotSupported => 0x25
  | concurrentApiCall => 0x26
  | unknown code => code

/-- The status a library returns to report a code. -/
def asStatus (e : ErrorCode) : Status := e.code

/-- The code that a status reports; `none` for success. -/
def ofStatus (status : Status) : Option ErrorCode :=
  match status with
  | 0 => none
  | 0x01 => some notSupported
  | 0x02 => some invalidChannelId
  | 0x03 => some protocolIdNotSupported
  | 0x04 => some nullParameter
  | 0x05 => some ioctlValueNotSupported
  | 0x06 => some flagNotSupported
  | 0x07 => some failed
  | 0x08 => some deviceNotConnected
  | 0x09 => some timeout
  | 0x0A => some invalidMsg
  | 0x0B => some timeIntervalNotSupported
  | 0x0C => some exceededLimit
  | 0x0D => some invalidMsgId
  | 0x0E => some deviceInUse
  | 0x0F => some ioctlIdNotSupported
  | 0x10 => some bufferEmpty
  | 0x11 => some bufferFull
  | 0x12 => some bufferOverflow
  | 0x13 => some pinNotSupported
  | 0x14 => some resourceConflict
  | 0x15 => some msgProtocolId
  | 0x16 => some invalidFilterId
  | 0x17 => some noFlowControl
  | 0x18 => some notUnique
  | 0x19 => some baudrateNotSupported
  | 0x1A => some invalidDeviceId
  | 0x1B => some deviceNotOpen
  | 0x1C => some nullRequired
  | 0x1D => some filterTypeNotSupported
  | 0x1E => some ioctlParamIdNotSupported
  | 0x1F => some voltageInUse
  | 0x20 => some pinInUse
  | 0x21 => some initFailed
  | 0x22 => some openFailed
  | 0x23 => some bufferTooSmall
  | 0x24 => some logChanNotAllowed
  | 0x25 => some selectTypeNotSupported
  | 0x26 => some concurrentApiCall
  | other => some (unknown other)

/-- The vendor's identifier of a code. -/
def name : ErrorCode → String
  | notSupported => "ERR_NOT_SUPPORTED"
  | invalidChannelId => "ERR_INVALID_CHANNEL_ID"
  | protocolIdNotSupported => "ERR_PROTOCOL_ID_NOT_SUPPORTED"
  | nullParameter => "ERR_NULL_PARAMETER"
  | ioctlValueNotSupported => "ERR_IOCTL_VALUE_NOT_SUPPORTED"
  | flagNotSupported => "ERR_FLAG_NOT_SUPPORTED"
  | failed => "ERR_FAILED"
  | deviceNotConnected => "ERR_DEVICE_NOT_CONNECTED"
  | timeout => "ERR_TIMEOUT"
  | invalidMsg => "ERR_INVALID_MSG"
  | timeIntervalNotSupported => "ERR_TIME_INTERVAL_NOT_SUPPORTED"
  | exceededLimit => "ERR_EXCEEDED_LIMIT"
  | invalidMsgId => "ERR_INVALID_MSG_ID"
  | deviceInUse => "ERR_DEVICE_IN_USE"
  | ioctlIdNotSupported => "ERR_IOCTL_ID_NOT_SUPPORTED"
  | bufferEmpty => "ERR_BUFFER_EMPTY"
  | bufferFull => "ERR_BUFFER_FULL"
  | bufferOverflow => "ERR_BUFFER_OVERFLOW"
  | pinNotSupported => "ERR_PIN_NOT_SUPPORTED"
  | resourceConflict => "ERR_RESOURCE_CONFLICT"
  | msgProtocolId => "ERR_MSG_PROTOCOL_ID"
  | invalidFilterId => "ERR_INVALID_FILTER_ID"
  | noFlowControl => "ERR_NO_FLOW_CONTROL"
  | notUnique => "ERR_NOT_UNIQUE"
  | baudrateNotSupported => "ERR_BAUDRATE_NOT_SUPPORTED"
  | invalidDeviceId => "ERR_INVALID_DEVICE_ID"
  | deviceNotOpen => "ERR_DEVICE_NOT_OPEN"
  | nullRequired => "ERR_NULL_REQUIRED"
  | filterTypeNotSupported => "ERR_FILTER_TYPE_NOT_SUPPORTED"
  | ioctlParamIdNotSupported => "ERR_IOCTL_PARAM_ID_NOT_SUPPORTED"
  | voltageInUse => "ERR_VOLTAGE_IN_USE"
  | pinInUse => "ERR_PIN_IN_USE"
  | initFailed => "ERR_INIT_FAILED"
  | openFailed => "ERR_OPEN_FAILED"
  | bufferTooSmall => "ERR_BUFFER_TOO_SMALL"
  | logChanNotAllowed => "ERR_LOG_CHAN_NOT_ALLOWED"
  | selectTypeNotSupported => "ERR_SELECT_TYPE_NOT_SUPPORTED"
  | concurrentApiCall => "ERR_CONCURRENT_API_CALL"
  | unknown _ => "ERR_UNKNOWN"

/-- What a code means, in words. -/
def description : ErrorCode → String
  | notSupported => "function or option is not supported by the interface"
  | invalidChannelId => "channel id is not valid"
  | protocolIdNotSupported => "protocol id is not supported"
  | nullParameter => "NULL pointer supplied where a valid pointer is required"
  | ioctlValueNotSupported => "ioctl value is invalid or out of range"
  | flagNotSupported => "flag value is invalid or not appropriate for the channel"
  | failed => "undefined error, see PassThruGetLastError"
  | deviceNotConnected => "PassThru device is not connected"
  | timeout => "request could not be completed within the timeout"
  | invalidMsg => "message structure is invalid for the channel"
  | timeIntervalNotSupported => "time interval is outside the supported range"
  | exceededLimit => "exceeded the allowed limit"
  | invalidMsgId => "message id is not valid"
  | deviceInUse => "device is already open"
  | ioctlIdNotSupported => "ioctl id is not supported"
  | bufferEmpty => "no data available to return"
  | bufferFull => "transmit queue is full"
  | bufferOverflow => "receive buffer overflowed and messages were lost"
  | pinNotSupported => "pin number or connector is invalid"
  | resourceConflict => "request conflicts with a resource already in use"
  | msgProtocolId => "message protocol does not match the channel protocol"
  | invalidFilterId => "filter id is not valid"
  | noFlowControl => "no flow control filter matches the outgoing message"
  | notUnique => "filter duplicates an existing filter"
  | baudrateNotSupported => "baud rate is invalid or unachievable"
  | invalidDeviceId => "device id is not valid"
  | deviceNotOpen => "PassThruOpen has not been called successfully"
  | nullRequired => "parameter must be NULL for this request"
  | filterTypeNotSupported => "filter type is not supported"
  | ioctlParamIdNotSupported => "configuration parameter is not supported"
  | voltageInUse => "programming voltage is already applied to another pin"
  | pinInUse => "pin is already in use"
  | initFailed => "vehicle initialization failed"
  | openFailed => "device could not be opened"
  | bufferTooSmall => "supplied buffer is too small for the data"
  | logChanNotAllowed => "logical channel is not allowed on this physical channel"
  | selectTypeNotSupported => "select type is not supported"
  | concurrentApiCall => "a previous API call has not completed"
  | unknown code => "unknown error code " ++ toString code

/-- A code with its identifier and meaning, as it is shown to a user. -/
def message (e : ErrorCode) : String := e.name ++ ": " ++ e.description

end ErrorCode

end PassThru
