import Mathlib.Data.UInt
import TapPort.Stats

namespace TapPort

-- The sum of counters shows the sum of the numbers, which starts again at zero as they do.
theorem sum_ofNat (ns : List Nat) : (ns.map UInt64.ofNat).sum = UInt64.ofNat ns.sum := by
  induction ns
  case nil => rfl
  case cons n ns ih => rw [List.map_cons, List.sum_cons, List.sum_cons, ih, UInt64.ofNat_add]

theorem toNat_sum {ns : List UInt64} (h : (ns.map UInt64.toNat).sum < UInt64.size) :
    ns.sum.toNat = (ns.map UInt64.toNat).sum := by
  have hs := sum_ofNat (ns.map UInt64.toNat)
  have hn : (ns.map UInt64.toNat).map UInt64.ofNat = ns := by simp [Function.comp_def]
  rw [hn] at hs
  rw [hs, UInt64.toNat_ofNat_of_lt' h]

namespace PortStats

-- The statistics when the counters of the first queues were entered, and so many are to come.
def entered (cs : List QueueCounters) (left : Nat) : PortStats where
  ipackets := (cs.map (·.ipackets)).sum
  opackets := (cs.map (·.opackets)).sum
  ibytes := (cs.map (·.ibytes)).sum
  obytes := (cs.map (·.obytes)).sum
  oerrors := (cs.map (·.errors)).sum
  queueIpackets := cs.map (·.ipackets) ++ List.replicate left 0
  queueOpackets := cs.map (·.opackets) ++ List.replicate left 0
  queueIbytes := cs.map (·.ibytes) ++ List.replicate left 0
  queueObytes := cs.map (·.obytes) ++ List.replicate left 0
  queueErrors := cs.map (·.errors) ++ List.replicate left 0

theorem set_entered (f : QueueCounters → UInt64) (cs : List QueueCounters) (c : QueueCounters)
    (left : Nat) :
    (cs.map f ++ List.replicate (left + 1) 0).set cs.length (f c) =
      (cs ++ [c]).map f ++ List.replicate left 0 := by
  simp [List.replicate_succ]

theorem enter?_entered (cs : List QueueCounters) (c : QueueCounters) (left : Nat) :
    (entered cs (left + 1)).enter? cs.length c = some (entered (cs ++ [c]) left) := by
  have hl (f : QueueCounters → UInt64) :
      cs.length < (cs.map f ++ List.replicate (left + 1) 0).length := by
    simp
  refine (if_neg (Nat.not_le.2 (hl _))).trans ((if_pos ⟨hl _, hl _, hl _, hl _⟩).trans ?_)
  simp only [entered, set_entered, List.map_append, List.sum_append, List.map_singleton,
    List.sum_singleton]

theorem foldl_entered (cs rest : List QueueCounters) :
    (rest.zipIdx cs.length).foldl (fun s (c, i) => (s.enter? i c).getD s)
      (entered cs rest.length) = entered (cs ++ rest) 0 := by
  induction rest generalizing cs
  case nil => simp
  case cons c rest ih =>
    have hc := ih (cs ++ [c])
    rw [List.length_append, List.length_singleton, List.append_assoc, List.singleton_append] at hc
    rw [List.zipIdx_cons, List.foldl_cons, List.length_cons]
    simpa only [enter?_entered, Option.getD_some] using hc

theorem ofCounters_eq (cs : List QueueCounters) :
    ofCounters cs = entered (cs.take maxQueueStats) 0 := by
  have hq : ofQueues (cs.take maxQueueStats).length =
      entered [] (cs.take maxQueueStats).length := by
    have hl : min (cs.take maxQueueStats).length maxQueueStats = (cs.take maxQueueStats).length :=
      Nat.min_eq_left (List.length_take_le ..)
    simp only [ofQueues, hl]
    rfl
  rw [ofCounters, hq]
  exact foldl_entered [] _

end PortStats

-- What statistics keep: each has a counter in every queue, a list with an entry a queue, and a
-- total.
inductive Column where
  | ipackets
  | opackets
  | ibytes
  | obytes
  | errors

namespace Column

def counter : Column → QueueCounters → UInt64
  | ipackets => (·.ipackets)
  | opackets => (·.opackets)
  | ibytes => (·.ibytes)
  | obytes => (·.obytes)
  | errors => (·.errors)

def list : Column → PortStats → List UInt64
  | ipackets => (·.queueIpackets)
  | opackets => (·.queueOpackets)
  | ibytes => (·.queueIbytes)
  | obytes => (·.queueObytes)
  | errors => (·.queueErrors)

def total : Column → PortStats → UInt64
  | ipackets => (·.ipackets)
  | opackets => (·.opackets)
  | ibytes => (·.ibytes)
  | obytes => (·.obytes)
  | errors => (·.oerrors)

variable (c : Column) (cs : List QueueCounters)

theorem list_entered : c.list (.entered cs 0) = cs.map c.counter := by
  cases c <;> exact List.append_nil _

theorem total_entered : c.total (.entered cs 0) = (cs.map c.counter).sum := by
  cases c <;> rfl

theorem counter_zero : c.counter .zero = 0 := by
  cases c <;> rfl

end Column

end TapPort
