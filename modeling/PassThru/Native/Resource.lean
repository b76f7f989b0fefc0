import PassThru.Model.Resource
import PassThru.Native.Number

/-!
# The resource structure

`RESOURCE_STRUCT`: a connector and a counted list of pins.
-/

namespace PassThru

/-- Pins as they are handed to the library; `list` is `none` for a null pointer. -/
structure NativeResource (w : Width) where
  connector : Word w
  count : Word w
  list : Option (List (Word w))
  deriving DecidableEq

namespace Resource

variable {w : Width}

def encode (r : Resource) : Answer (NativeResource w) := do
  let count ← Word.count "num_of_resources" r.pins.length
  return {
    connector := .of32 r.connector
    count
    list := pointerTo (r.pins.map .of32) }

def decode (r : NativeResource w) : Answer Resource := do
  let count ← r.count.read "num_of_resources"
  let pins ← ((r.list.getD []).take count.toNat).mapM (Word.read "resource_list")
  let connector ← r.connector.read "connector"
  return { connector, pins }

end Resource

end PassThru
