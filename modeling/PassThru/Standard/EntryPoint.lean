/-!
# Entry points

The nineteen functions of the interface.
-/

namespace PassThru

/-- A function of the PassThru interface. -/
inductive EntryPoint where
  | scanForDevices
  | getNextDevice
  | openDevice
  | closeDevice
  | connect
  | disconnect
  | logicalConnect
  | logicalDisconnect
  | select
  | readMsgs
  | queueMsgs
  | startPeriodicMsg
  | stopPeriodicMsg
  | startMsgFilter
  | stopMsgFilter
  | setProgrammingVoltage
  | readVersion
  | getLastError
  | ioctl
  deriving DecidableEq, Repr

namespace EntryPoint

def all : List EntryPoint :=
  [scanForDevices, getNextDevice, openDevice, closeDevice, connect, disconnect, logicalConnect,
    logicalDisconnect, select, readMsgs, queueMsgs, startPeriodicMsg, stopPeriodicMsg,
    startMsgFilter, stopMsgFilter, setProgrammingVoltage, readVersion, getLastError, ioctl]

/-- The name a library exports an entry point under. -/
def symbol : EntryPoint → String
  | scanForDevices => "PassThruScanForDevices"
  | getNextDevice => "PassThruGetNextDevice"
  | openDevice => "PassThruOpen"
  | closeDevice => "PassThruClose"
  | connect => "PassThruConnect"
  | disconnect => "PassThruDisconnect"
  | logicalConnect => "PassThruLogicalConnect"
  | logicalDisconnect => "PassThruLogicalDisconnect"
  | select => "PassThruSelect"
  | readMsgs => "PassThruReadMsgs"
  | queueMsgs => "PassThruQueueMsgs"
  | startPeriodicMsg => "PassThruStartPeriodicMsg"
  | stopPeriodicMsg => "PassThruStopPeriodicMsg"
  | startMsgFilter => "PassThruStartMsgFilter"
  | stopMsgFilter => "PassThruStopMsgFilter"
  | setProgrammingVoltage => "PassThruSetProgrammingVoltage"
  | readVersion => "PassThruReadVersion"
  | getLastError => "PassThruGetLastError"
  | ioctl => "PassThruIoctl"

end EntryPoint

end PassThru
