import PassThru.Model.Message
import PassThru.Model.Resource
import PassThru.Standard.Ioctl

/-!
# Arguments of control requests

A control request reads one argument and fills another. Which of the forms below it takes is the
shape that the request names.
-/

namespace PassThru

/-- A configuration parameter with a value. -/
structure Setting where
  parameter : UInt32
  value : UInt32
  deriving DecidableEq, Repr

/-- What a control request reads. -/
inductive ControlInput where
  | none
  | settings (list : List Setting)
  | bytes (bytes : List UInt8)
  | message (message : Message)
  | resource (resource : Resource)
  deriving DecidableEq, Repr

def ControlInput.shape : ControlInput → Ioctl.Shape
  | none => .none
  | settings _ => .configList
  | bytes _ => .bytes
  | message _ => .message
  | resource _ => .resource

/-- What a control request fills. -/
inductive ControlOutput where
  | none
  | settings (list : List Setting)
  | bytes (bytes : List UInt8)
  | message (message : Message)
  | millivolts (value : UInt32)
  deriving DecidableEq, Repr

def ControlOutput.shape : ControlOutput → Ioctl.Shape
  | none => .none
  | settings _ => .configList
  | bytes _ => .bytes
  | message _ => .message
  | millivolts _ => .voltage

end PassThru
