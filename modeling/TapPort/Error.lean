import TapPort.Frame
import TapPort.Io
import TapPort.Port.Phase
import TapPort.Text.Quoted
import TapPort.Tun.Flags

namespace TapPort

inductive ConfigError where
  | emptyInterfaceName
  | interfaceNameTooLong (name : String)
  | badInterfaceName (name : String)
  | queueCountOutOfRange (queues : Nat)
  | expectedKeyValue (segment : String)
  | repeatedKey (key : String)
  | unknownKey (key : String)
  | badSpeed (text : String)
  | portExists (name : String)
  | noFreePortId
  | queueOutOfRange (queue queues : Nat)
  -- Any other cause, in a device's own words.
  | other (words : String)
deriving DecidableEq, Repr

inductive DeviceError where
  | refused (cause : TunFlags.Refusal)
  | openRefused
  | nameTooLong (name : String)
  | nameDoesNotFit (name : String)
  -- The interface is in use and has room for one queue only.
  | busy
  | openControl (path : String) (cause : IoError)
  | readFeatures (cause : IoError)
  | setInterface (name : Option String) (cause : IoError)
  | setNonblocking (cause : IoError)
  | readAddress (cause : IoError)
  | setAddress (cause : IoError)
  | findIndex (iface : String) (cause : IoError)
  | other (words : String)
deriving DecidableEq, Repr

inductive ResourceError where
  -- The buffers of a pool cannot hold a frame.
  | roomTooSmall (pool : String) (room : Nat)
  | other (words : String)
deriving DecidableEq, Repr

inductive Error where
  | config (cause : ConfigError)
  | badState (phase : Phase)
  | deviceUnavailable (cause : DeviceError)
  | outOfResources (cause : ResourceError)
deriving DecidableEq, Repr

-- An interface name takes less than this many octets.
def nameLimit : Nat := 16

def ConfigError.message : ConfigError → String
  | emptyInterfaceName => "empty interface name"
  | interfaceNameTooLong name =>
    "interface name " ++ name ++ " too long, must be under " ++ toString nameLimit ++ " bytes"
  | badInterfaceName name => "bad interface name: " ++ Text.quoted name
  | queueCountOutOfRange queues =>
    "queue count " ++ toString queues ++ " out of range 1-" ++ toString maxQueues
  | expectedKeyValue segment => "expected key=value: " ++ segment
  | repeatedKey key => "repeated key: " ++ key
  | unknownKey key => "unknown key: " ++ key
  | badSpeed text => "bad speed: " ++ text
  | portExists name => "port " ++ name ++ " already exists"
  | noFreePortId => "no free port id"
  | queueOutOfRange queue queues =>
    "queue " ++ toString queue ++ " out of range, port has " ++ toString queues ++ " queue(s)"
  | other words => words

-- How a name that was left to the kernel is referred to.
def unnamedInterface : String := "<kernel>"

def DeviceError.message : DeviceError → String
  | refused .noQueues => "zero queues requested"
  | refused (.unsupported queues features) =>
    toString queues ++ " queue(s) requested but kernel reports features " ++ features.text
  | openRefused => "open of mock device failed"
  | nameTooLong name => "interface name " ++ name ++ " too long"
  | nameDoesNotFit name =>
    "interface name " ++ name ++ " must be under " ++ toString nameLimit ++ " bytes"
  | busy => "device busy"
  | openControl path cause => "failed to open " ++ path ++ ": " ++ cause.message
  | readFeatures cause => "TUNGETFEATURES failed: " ++ cause.message
  | setInterface name cause =>
    "TUNSETIFF " ++ name.getD unnamedInterface ++ " failed: " ++ cause.message
  | setNonblocking cause => "failed to set O_NONBLOCK: " ++ cause.message
  | readAddress cause => "failed to read hardware address: " ++ cause.message
  | setAddress cause => "failed to set hardware address: " ++ cause.message
  | findIndex iface cause => "failed to look up index of " ++ iface ++ ": " ++ cause.message
  | other words => words

def ResourceError.message : ResourceError → String
  | roomTooSmall pool room =>
    toString Frame.receiveRoom ++ " bytes will not fit in buffers of pool " ++ pool ++ " ("
      ++ toString room ++ " bytes)"
  | other words => words

def Error.message : Error → String
  | config cause => "configuration error: " ++ cause.message
  | badState phase => "operation not valid in state " ++ phase.text
  | deviceUnavailable cause => "TAP device unavailable: " ++ cause.message
  | outOfResources cause => "out of resources: " ++ cause.message

end TapPort
