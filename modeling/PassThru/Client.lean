import PassThru.Client.Control
import PassThru.Client.EntryPoints
import PassThru.Library
import PassThru.Settings.Basic

/-!
# Clients

A client is a driver with settings. Each of its operations puts one request to the driver and
retries nothing; only `Client.scanDevices`, which asks for one device after the other, makes more
than one call.
-/

namespace PassThru

/-- A driver with settings. -/
structure Client (w : Width) (σ : Type) where
  driver : Driver w σ
  settings : Settings

namespace Client

variable {w : Width} {σ α : Type}

/-! ## Making a client -/

/-- A client of a driver, with the default settings. -/
def ofDriver (driver : Driver w σ) : Client w σ := ⟨driver, {}⟩

/-- A client of a driver, with valid settings. -/
def withSettings (driver : Driver w σ) (settings : Settings) : Answer (Client w σ) := do
  settings.validate
  return ⟨driver, settings⟩

/-- A client of the library that the settings name; `load` finds a library by its path. -/
def ofSettings (load : Path → Answer (Library w σ)) (settings : Settings) :
    Answer (Client w σ) := do
  settings.validate
  let path ← settings.requireLibraryPath
  let library ← load path
  let native ← library.resolve
  return ⟨native.driver, settings⟩

/-- A client of the library at a path, with the default settings. -/
def ofPath (load : Path → Answer (Library w σ)) (path : Path) : Answer (Client w σ) :=
  ofSettings load { libraryPath := some path }

/-! ## Operations -/

/-- Put a request to the driver. -/
def ask (c : Client w σ) (request : Request w α) (state : σ) : Answer α × σ :=
  request.perform c.driver state

/-- Ask for one more device, and go on with it unless the library has no more. -/
def drainStep (c : Client w σ) :
    List Device × σ → Id (List Device × σ ⊕ Answer (List Device) × σ)
  | (devices, state) =>
    match c.ask .getNextDevice state with
    | (.ok device, state) => .inl (devices ++ [device], state)
    | (.error e, state) => .inr (if e.is .exceededLimit then .ok devices else .error e, state)

/-- Ask for the devices of the last scan until the library says that there are no more. Nothing else
ends this loop. -/
def drain (c : Client w σ) (state : σ) : Answer (List Device) × σ :=
  have : Nonempty (Answer (List Device) × σ) := ⟨(.ok [], state)⟩
  (repeatM c.drainStep ([], state)).run

def scanDevices (c : Client w σ) (state : σ) : Answer (List Device) × σ :=
  match c.ask .scanForDevices state with
  | (.error e, state) => (.error e, state)
  | (.ok count, state) => if count = 0 then (.ok [], state) else c.drain state

/-- Read at most `max` messages. -/
def readMsgs (c : Client w σ) (channel : ChannelId) (max : Nat) (timeout : UInt32) :
    σ → Answer (List Message) × σ :=
  c.ask (.readMsgs c.settings.rxBufferSize channel max timeout)

/-- Read a batch of the size and with the timeout of the settings. -/
def readBatch (c : Client w σ) (channel : ChannelId) : σ → Answer (List Message) × σ :=
  c.readMsgs channel c.settings.readBatchSize.toNat c.settings.defaultTimeoutMs

def ioctl (c : Client w σ) (target : UInt32) (id : Ioctl) (input : ControlInput) :
    σ → Answer ControlOutput × σ :=
  c.ask (.ioctl c.settings.rxBufferSize target id input)

def getConfig (c : Client w σ) (channel : ChannelId) (parameters : List UInt32) :
    σ → Answer (List Setting) × σ :=
  c.ask (.getConfig c.settings.rxBufferSize channel parameters)

def setConfig (c : Client w σ) (channel : ChannelId) (settings : List Setting) :
    σ → Answer Unit × σ :=
  c.ask (.setConfig c.settings.rxBufferSize channel settings)

def readVoltage (c : Client w σ) (device : DeviceId) (pin : Resource) : σ → Answer UInt32 × σ :=
  c.ask (.readVoltage c.settings.rxBufferSize device pin)

def readProgVoltage (c : Client w σ) (device : DeviceId) : σ → Answer UInt32 × σ :=
  c.ask (.readProgVoltage c.settings.rxBufferSize device)

def fiveBaudInit (c : Client w σ) (channel : ChannelId) (address : UInt8) :
    σ → Answer (List UInt8) × σ :=
  c.ask (.fiveBaudInit c.settings.rxBufferSize channel address)

def fastInit (c : Client w σ) (channel : ChannelId) (message : Message) :
    σ → Answer Message × σ :=
  c.ask (.fastInit c.settings.rxBufferSize channel message)

/-- A control request without arguments. -/
def clear (c : Client w σ) (channel : ChannelId) (id : Ioctl) : σ → Answer Unit × σ :=
  c.ask (.clear c.settings.rxBufferSize channel id)

end Client

end PassThru
