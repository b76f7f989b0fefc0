import PassThru.Driver

/-!
# Vendor libraries

A shared library exports functions by name. `Library.resolve` looks them up, one after the other:
the first required one that is missing is reported, and the two for logical channels may be absent.
What is found is kept in a `NativeLibrary`, which is a driver.
-/

namespace PassThru

/-- A shared library: the function that it exports under a name, if any. -/
structure Library (w : Width) (σ : Type) where
  symbol? : String → Option (Driver w σ)

/-- The functions of a library. Those for logical channels are missing from older ones. -/
structure NativeLibrary (w : Width) (σ : Type) where
  scanForDevices : Driver w σ
  getNextDevice : Driver w σ
  openDevice : Driver w σ
  closeDevice : Driver w σ
  connect : Driver w σ
  disconnect : Driver w σ
  logicalConnect? : Option (Driver w σ)
  logicalDisconnect? : Option (Driver w σ)
  select : Driver w σ
  readMsgs : Driver w σ
  queueMsgs : Driver w σ
  startPeriodicMsg : Driver w σ
  stopPeriodicMsg : Driver w σ
  startMsgFilter : Driver w σ
  stopMsgFilter : Driver w σ
  setProgrammingVoltage : Driver w σ
  readVersion : Driver w σ
  getLastError : Driver w σ
  ioctl : Driver w σ

variable {w : Width} {σ : Type}

namespace Library

/-- The library that exports some entry points of a driver. -/
def exporting (driver : Driver w σ) (exports : EntryPoint → Bool) : Library w σ where
  symbol? name :=
    if EntryPoint.all.any fun entry => entry.symbol == name && exports entry then some driver
    else none

/-- A function that has to be there. -/
def symbol (lib : Library w σ) (entry : EntryPoint) : Answer (Driver w σ) :=
  match lib.symbol? entry.symbol with
  | some function => .ok function
  | none => .error (.missingSymbol entry)

/-- A function that older libraries do not export. -/
def optionalSymbol (lib : Library w σ) (entry : EntryPoint) : Option (Driver w σ) :=
  match lib.symbol entry with
  | .ok function => some function
  | .error _ => none

/-- Look up every function, in this order. -/
def resolve (lib : Library w σ) : Answer (NativeLibrary w σ) := do
  return {
    scanForDevices := ← lib.symbol .scanForDevices
    getNextDevice := ← lib.symbol .getNextDevice
    openDevice := ← lib.symbol .openDevice
    closeDevice := ← lib.symbol .closeDevice
    connect := ← lib.symbol .connect
    disconnect := ← lib.symbol .disconnect
    logicalConnect? := lib.optionalSymbol .logicalConnect
    logicalDisconnect? := lib.optionalSymbol .logicalDisconnect
    select := ← lib.symbol .select
    readMsgs := ← lib.symbol .readMsgs
    queueMsgs := ← lib.symbol .queueMsgs
    startPeriodicMsg := ← lib.symbol .startPeriodicMsg
    stopPeriodicMsg := ← lib.symbol .stopPeriodicMsg
    startMsgFilter := ← lib.symbol .startMsgFilter
    stopMsgFilter := ← lib.symbol .stopMsgFilter
    setProgrammingVoltage := ← lib.symbol .setProgrammingVoltage
    readVersion := ← lib.symbol .readVersion
    getLastError := ← lib.symbol .getLastError
    ioctl := ← lib.symbol .ioctl }

end Library

namespace NativeLibrary

/-- Whether logical channels can be used. -/
def supportsLogicalChannels (native : NativeLibrary w σ) : Bool :=
  native.logicalConnect?.isSome && native.logicalDisconnect?.isSome

/-- Every call goes to the function of its entry point. -/
def driver (native : NativeLibrary w σ) : Driver w σ
  | .scanForDevices count => native.scanForDevices (.scanForDevices count)
  | .getNextDevice device => native.getNextDevice (.getNextDevice device)
  | .openDevice name device => native.openDevice (.openDevice name device)
  | .closeDevice device => native.closeDevice (.closeDevice device)
  | .connect device protocol flags baud resource channel =>
    native.connect (.connect device protocol flags baud resource channel)
  | .disconnect channel => native.disconnect (.disconnect channel)
  | .logicalConnect physical protocol flags descriptor channel =>
    match native.logicalConnect? with
    | some function => function (.logicalConnect physical protocol flags descriptor channel)
    | none => fun state => (.untouched _ ErrorCode.notSupported.asStatus, state)
  | .logicalDisconnect channel =>
    match native.logicalDisconnect? with
    | some function => function (.logicalDisconnect channel)
    | none => fun state => (.untouched _ ErrorCode.notSupported.asStatus, state)
  | .select set kind timeout => native.select (.select set kind timeout)
  | .readMsgs channel slots count timeout =>
    native.readMsgs (.readMsgs channel slots count timeout)
  | .queueMsgs channel messages count => native.queueMsgs (.queueMsgs channel messages count)
  | .startPeriodicMsg channel message id interval =>
    native.startPeriodicMsg (.startPeriodicMsg channel message id interval)
  | .stopPeriodicMsg channel id => native.stopPeriodicMsg (.stopPeriodicMsg channel id)
  | .startMsgFilter channel kind mask pattern id =>
    native.startMsgFilter (.startMsgFilter channel kind mask pattern id)
  | .stopMsgFilter channel id => native.stopMsgFilter (.stopMsgFilter channel id)
  | .setProgrammingVoltage device pin voltage =>
    native.setProgrammingVoltage (.setProgrammingVoltage device pin voltage)
  | .readVersion device firmware dll api =>
    native.readVersion (.readVersion device firmware dll api)
  | .getLastError text => native.getLastError (.getLastError text)
  | .ioctl target id input output => native.ioctl (.ioctl target id input output)

end NativeLibrary

end PassThru
