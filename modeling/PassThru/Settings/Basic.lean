import PassThru.Error
import PassThru.Text.Path

/-!
# Settings

What a client needs to know besides its driver: where the vendor library is, how long a read
waits, how many messages it asks for and how much room each of them gets.
-/

namespace PassThru

/-- The settings of a client. -/
structure Settings where
  libraryPath : Option Path := none
  /-- How long a batch read waits, in milliseconds. -/
  defaultTimeoutMs : UInt32 := 1000
  /-- Messages that a batch read asks for. -/
  readBatchSize : UInt64 := 16
  /-- Room for data in each receive buffer: the longest ISO 15765 payload and a CAN identifier. -/
  rxBufferSize : UInt32 := 4128
  deriving DecidableEq, Repr

namespace Settings

/-- Refuse settings under which nothing could be received. -/
def validate (s : Settings) : Answer Unit :=
  if s.readBatchSize = 0 then .error (.invalidSettings .emptyBatch)
  else if s.rxBufferSize = 0 then .error (.invalidSettings .emptyBuffer)
  else .ok ()

/-- The path of the library, which has to be set. -/
def requireLibraryPath (s : Settings) : Answer Path :=
  match s.libraryPath with
  | some path => .ok path
  | none => .error (.invalidSettings .noLibrary)

end Settings

end PassThru
