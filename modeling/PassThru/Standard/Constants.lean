/-!
# Named numbers

The numbers that the standard gives to the state of an interface, to the connector and to the
special programming voltages.
-/

namespace PassThru

namespace Availability

def unknown : UInt32 := 0
def available : UInt32 := 1
def inUse : UInt32 := 2

/-- Every availability of an interface with its number. -/
def table : List (String × UInt32) :=
  [("UNKNOWN", unknown), ("AVAILABLE", available), ("IN_USE", inUse)]

end Availability

namespace FirmwareStatus

def compatible : UInt32 := 1

/-- How the library's and the interface's versions fit each other. -/
def table : List (String × UInt32) :=
  [("UNKNOWN", 0), ("COMPATIBLE", compatible), ("DLL_FW_UPDATE_RECOMMENDED", 2),
    ("DLL_UPDATE_REQUIRED", 3), ("FW_UPDATE_REQUIRED", 4)]

end FirmwareStatus

namespace Media

def wired : UInt32 := 2

/-- How an interface is attached to the host. -/
def table : List (String × UInt32) := [("UNKNOWN", 0), ("WIRELESS", 1), ("WIRED", wired)]

end Media

namespace Connector

def j1962 : UInt32 := 1

/-- Every connector with its number. -/
def table : List (String × UInt32) := [("J1962", j1962)]

end Connector

namespace Voltage

/-- Short the pin to ground. -/
def shortToGround : UInt32 := 0xFFFFFFFE

/-- Remove whatever is applied to the pin. -/
def pinOff : UInt32 := 0xFFFFFFFF

/-- The lowest programming voltage, in millivolts. -/
def minMillivolts : UInt32 := 5000

/-- The highest programming voltage, in millivolts. -/
def maxMillivolts : UInt32 := 20000

/-- The special values and the limits of a programming voltage. -/
def table : List (String × UInt32) :=
  [("SHORT_TO_GROUND", shortToGround), ("PIN_OFF", pinOff), ("MIN_MILLIVOLTS", minMillivolts),
    ("MAX_MILLIVOLTS", maxMillivolts)]

end Voltage

end PassThru
