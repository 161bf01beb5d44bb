import TapPort.Counter
import TapPort.Device
import TapPort.Pool

namespace TapPort

inductive Slot (κ : Type) where
  | unset
  | opened (handle : κ)
deriving DecidableEq, Repr

namespace Slot

variable {κ δ : Type} [Device δ κ]

def get? : Slot κ → Option κ
  | unset => none
  | opened h => some h

def isOpen (s : Slot κ) : Bool := s.get?.isSome

def close (s : Slot κ) (dev : δ) : δ :=
  match s with
  | opened h => Device.close h dev
  | unset => dev

def text (handleText : κ → String) : Slot κ → String
  | unset => "Unset"
  | opened h => "Open(" ++ handleText h ++ ")"

end Slot

-- Both directions of a queue.
structure QueuePair (κ : Type) where
  index : Nat
  slot : Slot κ
  -- Where received packets are put; without it nothing is received.
  pool : Option PoolId
  -- The port that received packets are marked with.
  portId : UInt16
  counters : QueueCounters
deriving DecidableEq, Repr

namespace QueuePair

variable {κ δ : Type} [Device δ κ]

def ofIndex (index : Nat) (portId : UInt16) : QueuePair κ := ⟨index, .unset, none, portId, .zero⟩

def isOpen (q : QueuePair κ) : Bool := q.slot.isOpen

-- Puts a descriptor in the slot; one that is there is closed before.
def install (q : QueuePair κ) (handle : κ) (dev : δ) : QueuePair κ × δ :=
  ({ q with slot := .opened handle }, q.slot.close dev)

def close (q : QueuePair κ) (dev : δ) : QueuePair κ × δ :=
  ({ q with slot := .unset }, q.slot.close dev)

def setPool (q : QueuePair κ) (pool : PoolId) : QueuePair κ := { q with pool := some pool }

def clearPool (q : QueuePair κ) : QueuePair κ := { q with pool := none }

def resetCounters (q : QueuePair κ) : QueuePair κ := { q with counters := .zero }

end QueuePair

end TapPort
