import TapPort.Proofs.Host.Interleaving
import TapPort.Proofs.Port.Reflection

namespace TapPort

namespace Host

-- A port of a host is ready for a round of polling at any time.
theorem ready_of_run (features : TunFlags) (events : List (Event MemoryTap.Control)) {p : Port Nat}
    (burst : UInt16) (reflect : Bool) :
    let h : Host MemoryTap Nat := (ofDevice (MemoryTap.ofFeatures features)).run events
    p ∈ h.ports → (⟨p, burst, reflect, h.dev, h.pools⟩ : Port.Polling Nat MemoryTap).Ready := by
  intro h hp
  have served : h.dev.Serves (h.ports.flatMap Port.handles) := serves_run features events
  have provided : h.Provided := (provided_ofDevice _).run events
  constructor
  case attached => exact served.attached.nodup_iff.2 served.nodup
  case handles => exact (List.nodup_flatMap.1 served.nodup).1 p hp
  case sound => exact provided.sound
  case fits => exact provided.fits p hp

-- Every round of polling on a port leaves the pools as they were, and sends back the first ones of
-- the frames that arrived at a queue on that queue, or none.
theorem reflected_of_run (features : TunFlags) (events : List (Event MemoryTap.Control))
    {place : Nat} {p : Port Nat} (burst : UInt16) (reflect : Bool) :
    let h : Host MemoryTap Nat := (ofDevice (MemoryTap.ofFeatures features)).run events
    let t : Port.Polling Nat MemoryTap := ⟨p, burst, reflect, h.dev, h.pools⟩
    h.ports[place]? = some p → ∃ sent, t.Reflects sent := by
  intro h t hp
  exact ⟨_, Port.Polling.reflects (ready_of_run features events burst reflect
    (List.mem_of_getElem? hp))⟩

-- One port with two queues that share a pool, on a device that takes no more than three frames.
def sharedEvents : List (Event MemoryTap.Control) :=
  [.addPool "m" 2 2048, .make "a" "dtap0" 0 ⟨none, Link.defaultSpeed, 2, 0⟩,
    .port 0 (.setUpRx 0 0 []), .port 0 (.setUpRx 1 0 []), .control (.pushTo 0 [7]),
    .control (.pushTo 1 [8]), .control (.pushTo 0 [9]), .control (.pushTo 1 [10, 11]),
    .control (.pushTo 1 [12]), .control (.budget (some 3))]

def sharedHost : Host MemoryTap Nat :=
  (ofDevice (MemoryTap.ofFeatures MemoryTap.defaultFeatures)).run sharedEvents

theorem ports_sharedHost : sharedHost.ports[0]?.isSome := by decide +kernel

def sharedPort : Port Nat := sharedHost.ports[0]?.get ports_sharedHost

-- The pool is drawn empty by both queues, and one frame of the second queue is not sent.
theorem reflected_of_run_shared :
    let t : Port.Polling Nat MemoryTap := ⟨sharedPort, 5, true, sharedHost.dev, sharedHost.pools⟩
    (∃ sent, t.Reflects sent) ∧ t.received = 4 ∧ t.round.dev.log = [[7], [9], [8]] ∧
      t.round.pools.available 0 = 2 := by
  intro t
  have hp : sharedHost.ports[0]? = some sharedPort := (Option.some_get _).symm
  refine ⟨?_, ?_, ?_, ?_⟩
  case refine_1 => exact reflected_of_run MemoryTap.defaultFeatures sharedEvents 5 true hp
  case refine_2 => decide +kernel
  case refine_3 => decide +kernel
  case refine_4 => decide +kernel

end Host

end TapPort
