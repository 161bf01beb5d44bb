import TapPort.Counter
import TapPort.Frame

namespace TapPort

structure PortStats where
  ipackets : UInt64
  opackets : UInt64
  ibytes : UInt64
  obytes : UInt64
  oerrors : UInt64
  queueIpackets : List UInt64
  queueOpackets : List UInt64
  queueIbytes : List UInt64
  queueObytes : List UInt64
  queueErrors : List UInt64
deriving DecidableEq, Repr, Inhabited

namespace PortStats

-- Statistics without any traffic, for so many queues as are kept apart.
def ofQueues (queues : Nat) : PortStats :=
  let zeros := List.replicate (min queues maxQueueStats) 0
  ⟨0, 0, 0, 0, 0, zeros, zeros, zeros, zeros, zeros⟩

-- Enters the counters of queue `i` and adds them to the totals. A queue that is not kept apart is
-- left out altogether; statistics whose lists do not all reach queue `i` cannot take it.
def enter? (s : PortStats) (i : Nat) (c : QueueCounters) : Option PortStats :=
  if s.queueIpackets.length ≤ i then some s
  else if i < s.queueIbytes.length ∧ i < s.queueOpackets.length ∧ i < s.queueObytes.length
      ∧ i < s.queueErrors.length then
    some {
      ipackets := s.ipackets + c.ipackets
      opackets := s.opackets + c.opackets
      ibytes := s.ibytes + c.ibytes
      obytes := s.obytes + c.obytes
      oerrors := s.oerrors + c.errors
      queueIpackets := s.queueIpackets.set i c.ipackets
      queueOpackets := s.queueOpackets.set i c.opackets
      queueIbytes := s.queueIbytes.set i c.ibytes
      queueObytes := s.queueObytes.set i c.obytes
      queueErrors := s.queueErrors.set i c.errors }
  else none

-- Whether nothing was counted, as far as totals and errors show.
def isZero (s : PortStats) : Bool :=
  s.ipackets == 0 && s.opackets == 0 && s.ibytes == 0 && s.obytes == 0 && s.oerrors == 0
    && s.queueErrors.all (· == 0)

def ofCounters (queues : List QueueCounters) : PortStats :=
  let kept := queues.take maxQueueStats
  kept.zipIdx.foldl (fun s (c, i) => (s.enter? i c).getD s) (ofQueues kept.length)

end PortStats

end TapPort
