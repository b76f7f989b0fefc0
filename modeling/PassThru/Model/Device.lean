import PassThru.Standard.Constants

/-!
# Devices

What a scan reports about an interface, and the versions an open one reports.
-/

namespace PassThru

/-- An interface as a scan reports it. -/
structure Device where
  name : String
  availability : UInt32
  firmwareStatus : UInt32
  media : UInt32
  speed : UInt32
  signalQuality : UInt32
  signalStrength : UInt32
  deriving DecidableEq, Repr

namespace Device

/-- Whether the interface can be opened. -/
def isAvailable (d : Device) : Bool := d.availability == Availability.available

def isInUse (d : Device) : Bool := d.availability == Availability.inUse

end Device

/-- The version texts of an open device and its library. -/
structure VersionInfo where
  firmware : String
  dll : String
  api : String
  deriving DecidableEq, Repr

end PassThru
