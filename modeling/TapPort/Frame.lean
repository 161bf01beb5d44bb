
namespace TapPort

namespace Frame

def addressLength : Nat := 6

-- Two addresses and the type field.
def headerLength : Nat := 14

def checksumLength : Nat := 4

def tagLength : Nat := 4

def payloadLimit : Nat := 1500

-- The largest untagged frame, without its checksum.
def untaggedLimit : Nat := headerLength + payloadLimit

-- The largest frame with one tag and its checksum.
def taggedLimit : Nat := untaggedLimit + tagLength + checksumLength

-- What a receive buffer has to hold: a tagged frame, whose checksum is stripped before.
def receiveRoom : Nat := taggedLimit - checksumLength

-- The octets `tag`, `tag + 1`, …: a frame that shows where each of its octets came from.
def ramp (tag : UInt8) (length : Nat) : List UInt8 :=
  (List.range length).map fun i => tag + UInt8.ofNat i

end Frame

def maxQueues : Nat := 16

-- Statistics are kept apart for at most this many queues.
def maxQueueStats : Nat := 16

-- The number of transmit or receive descriptors asked for where none is named.
def descriptorCount : Nat := 1024

end TapPort
