import TapPort.Proofs.Command.Course
import TapPort.Proofs.Command.Polling
import TapPort.Proofs.Port.Statistics
import TapPort.Proofs.Port.Supply
import TapPort.Proofs.Report.Table
import TapPort.Proofs.Tun.Failures

namespace TapPort

namespace Command

-- That each queue of a port is open, and receives into a pool of its own that is full.
structure Ready (o : RunOptions) (p : Port TunQueue) (pools : Pools) : Prop where
  queueCount : p.queueCount = o.queues.toNat
  queueIsOpen : ∀ q < p.queueCount, p.queueIsOpen q = true
  poolOf : ∀ q < p.queueCount, p.poolOf q = some q
  pool : ∀ q < p.queueCount,
    pools[q]? = some (Pool.ofCapacity (p.poolName q) o.poolSize Port.poolRoom)
  available : ∀ q < p.queueCount, pools.available q = o.poolSize

-- That a report is one on a port that runs.
structure Reported (o : RunOptions) (r : PortReport) : Prop where
  phase : r.info.phase = .started
  link : r.info.link.state = .up ∧ r.link.state = .up
  openQueues : r.info.openQueues = o.queues
  table : ∃ table, r.stats.table? = some table

section Ready

variable {o : RunOptions} {p p' : Port TunQueue} {dev dev' : TunDevice} {pools : Pools}
  {up : Port.BringUp TunQueue TunDevice}

end Ready

section Runs

variable {o : RunOptions} {clock : Clock} {args : PortArgs} {deadline : Nat} {p : Port TunQueue}
  {dev dev' : TunDevice}

theorem Reported.text {r : PortReport} (h : Reported o r) (json : Bool) :
    ∃ text, reportText json r = .ok text := by
  have ⟨table, ht⟩ := h.table
  unfold reportText
  cases json
  case true => exact ⟨_, rfl⟩
  case false => exact ⟨_, by rw [ht]; rfl⟩

end Runs

end Command

end TapPort
