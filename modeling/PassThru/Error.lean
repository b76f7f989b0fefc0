import PassThru.Standard.ErrorCode
import PassThru.Standard.EntryPoint
import PassThru.Standard.Ioctl

/-!
# Errors

Every way in which an operation on this side of the native boundary can fail, by cause.
`Error.message` is the text a user sees.
-/

namespace PassThru

/-- What makes settings unusable. -/
inductive SettingsFault where
  | emptyBatch
  | emptyBuffer
  | noLibrary
  deriving DecidableEq, Repr

def SettingsFault.message : SettingsFault → String
  | .emptyBatch => "read_batch_size must be at least 1"
  | .emptyBuffer => "rx_buffer_size must be at least 1"
  | .noLibrary => "library_path is not set (use a config file or J2534_LIBRARY_PATH)"

/-- A failed operation. -/
inductive Error where
  /-- The library reported a failure. -/
  | vendor (code : ErrorCode)
  /-- A number or text does not fit the width of its native field. -/
  | valueTooLarge (field : String) (max actual : Nat)
  /-- A control request was given an argument of another shape than the one it needs. -/
  | wrongShape (expected found : Ioctl.Shape)
  /-- A text with a NUL inside cannot be handed over. -/
  | interiorNul (field : String)
  /-- The shared library could not be loaded. -/
  | libraryLoad (path reason : String)
  /-- The shared library lacks a required entry point. -/
  | missingSymbol (entry : EntryPoint)
  /-- The settings could not be read. -/
  | unreadableSettings (reason : String)
  /-- The settings were read but cannot be used. -/
  | invalidSettings (fault : SettingsFault)
  deriving DecidableEq, Repr

/-- The result of an operation that can fail. -/
abbrev Answer (α : Type) : Type := Except Error α

namespace Error

/-- An error in words. -/
def message : Error → String
  | vendor code => code.message
  | valueTooLarge field max actual =>
    field ++ " is " ++ toString actual ++ " wide, native field holds at most " ++ toString max
  | wrongShape expected found =>
    EntryPoint.ioctl.symbol ++ " expects " ++ expected.name ++ ", got " ++ found.name
  | interiorNul field => field ++ " contains an interior NUL byte"
  | libraryLoad path reason => "Failed to load PassThru library " ++ path ++ ": " ++ reason
  | missingSymbol entry => "PassThru library does not export " ++ entry.symbol
  | unreadableSettings reason => "Configuration error: " ++ reason
  | invalidSettings fault => "Invalid configuration: " ++ fault.message

/-- The code of a failure that the library reported. -/
def code? : Error → Option ErrorCode
  | vendor code => some code
  | _ => none

/-- Whether the library reported the given code. -/
def is (e : Error) (code : ErrorCode) : Bool := e.code? == some code

end Error

/-- Turn a native status into a result. -/
def ErrorCode.check (status : Status) : Answer Unit :=
  match ErrorCode.ofStatus status with
  | none => .ok ()
  | some code => .error (.vendor code)

end PassThru
