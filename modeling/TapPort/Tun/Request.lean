
namespace TapPort

namespace Request

-- Directions of a transfer, seen from the caller.
def none : UInt32 := 0
def write : UInt32 := 1
def read : UInt32 := 2

-- A request number; what does not fit its field runs over into the higher ones and is lost at the
-- top.
def number (direction : UInt32) (kind nr : UInt8) (size : UInt64) : UInt32 :=
  (direction <<< 30) ||| (kind.toUInt32 <<< 8) ||| nr.toUInt32 ||| (size.toUInt32 <<< 16)

def tunKind : UInt8 := 84

def setInterface : UInt32 := number write tunKind 202 4

def getFeatures : UInt32 := number read tunKind 207 4

def getInterface : UInt32 := number read tunKind 210 4

def setQueue : UInt32 := number write tunKind 217 4

def getFlags : UInt32 := 0x8913
def setFlags : UInt32 := 0x8914
def setAddress : UInt32 := 0x8924
def getAddress : UInt32 := 0x8927
def getIndex : UInt32 := 0x8933

end Request

end TapPort
