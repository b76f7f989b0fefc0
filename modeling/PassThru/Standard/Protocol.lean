import PassThru.Standard.Coded

/-!
# Protocols

The vehicle networks a channel can be opened on, with their native numbers.
-/

namespace PassThru

/-- A vehicle network protocol. -/
inductive Protocol where
  /-- SAE J1850 with variable pulse width. -/
  | j1850vpw
  /-- SAE J1850 with pulse width modulation. -/
  | j1850pwm
  /-- ISO 9141 and ISO 9141-2. -/
  | iso9141
  /-- ISO 14230, Keyword Protocol 2000. -/
  | iso14230
  /-- CAN frames without a transport layer. -/
  | can
  /-- SAE J2610, the serial communication interface. -/
  | j2610
  /-- ISO 15765 addressing on top of a CAN channel. -/
  | iso15765Logical
  deriving DecidableEq, Repr

namespace Protocol

instance : Coded Protocol where
  all := [.j1850vpw, .j1850pwm, .iso9141, .iso14230, .can, .j2610, .iso15765Logical]
  code
    | .j1850vpw => 0x001
    | .j1850pwm => 0x002
    | .iso9141 => 0x003
    | .iso14230 => 0x004
    | .can => 0x005
    | .j2610 => 0x007
    | .iso15765Logical => 0x200
  name
    | .j1850vpw => "J1850Vpw"
    | .j1850pwm => "J1850Pwm"
    | .iso9141 => "Iso9141"
    | .iso14230 => "Iso14230"
    | .can => "Can"
    | .j2610 => "J2610"
    | .iso15765Logical => "Iso15765Logical"

def code (p : Protocol) : UInt32 := Coded.code p

def ofCode? (n : UInt32) : Option Protocol :=
  match n with
  | 0x001 => some .j1850vpw
  | 0x002 => some .j1850pwm
  | 0x003 => some .iso9141
  | 0x004 => some .iso14230
  | 0x005 => some .can
  | 0x007 => some .j2610
  | 0x200 => some .iso15765Logical
  | _ => none

def isCan : Protocol → Bool
  | can | iso15765Logical => true
  | _ => false

/-- Whether a channel of this protocol is opened on top of another channel. -/
def isLogical : Protocol → Bool
  | iso15765Logical => true
  | _ => false

/-- The usual bit rate of the bus. -/
def defaultBaudRate : Protocol → UInt32
  | j1850vpw => 10400
  | j1850pwm => 41600
  | iso9141 | iso14230 => 10400
  | can | iso15765Logical => 500000
  | j2610 => 7812

end Protocol

end PassThru
