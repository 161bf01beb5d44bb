import TapPort.Proofs.Port.Counting
import TapPort.Proofs.Port.Refinement
import TapPort.Proofs.Port.Rounds
import TapPort.Proofs.Stats

namespace TapPort

namespace Port

variable {κ δ : Type}

section Views

variable {p : Port κ}

-- The counters of all queues in order.
def counters (p : Port κ) : List QueueCounters := p.queues.map QueuePair.counters

theorem getElem?_counters (p : Port κ) (q : Nat) : p.counters[q]? = p.queueCounters? q :=
  List.getElem?_map ..

theorem length_counters (p : Port κ) : p.counters.length = p.queueCount :=
  List.length_map _

theorem counters_eq_map {f : Nat → QueueCounters}
    (h : ∀ q < p.queueCount, p.queueCounters? q = some (f q)) :
    p.counters = (List.range p.queueCount).map f := by
  apply List.ext_getElem?
  intro q
  rw [getElem?_counters, List.getElem?_map]
  by_cases hq : q < p.queueCount
  case pos => rw [h q hq, List.getElem?_range hq, Option.map_some]
  case neg =>
    rw [← getElem?_counters, List.getElem?_eq_none (by simpa [length_counters] using hq),
      List.getElem?_eq_none (by simpa using hq), Option.map_none]

-- A port has no more queues than statistics keep apart, so that they show them all.
theorem stats_eq (hn : p.queueCount ≤ maxQueueStats) : p.stats = .entered p.counters 0 := by
  have hl : p.counters.length ≤ maxQueueStats := p.length_counters ▸ hn
  rw [← List.take_of_length_le hl]
  exact PortStats.ofCounters_eq _

theorem ipackets_stats {tallies : Nat → Tally} (hn : p.queueCount ≤ maxQueueStats)
    (hc : ∀ q < p.queueCount, p.queueCounters? q = some (tallies q).counters) :
    p.stats.ipackets =
      UInt64.ofNat ((List.range p.queueCount).map fun q => (tallies q).received).sum := by
  have hi : p.counters.map (·.ipackets) =
      ((List.range p.queueCount).map fun q => (tallies q).received).map UInt64.ofNat := by
    rw [counters_eq_map hc, List.map_map, List.map_map]
    rfl
  rw [stats_eq hn, ← sum_ofNat, ← hi]
  rfl

end Views

variable [Device δ κ] {p p' : Port κ} {q : Nat} {dev dev' : δ} {pools : Pools}

theorem counters_configure {conf : DevConf} (h : p.configure conf = .ok p') :
    p'.counters = p.counters := by
  rcases p.configure_cases conf with ⟨_, he⟩ | ⟨_, _, he⟩ <;> cases he.symm.trans h
  rfl

theorem counters_start (h : p.start = .ok p') : p'.counters = p.counters := by
  rcases p.start_cases with ⟨_, he⟩ | ⟨_, he⟩ | ⟨_, he⟩ <;> cases he.symm.trans h
  all_goals rfl

theorem counters_step {op : Op} {n : Nat} (h : p.step dev op = ⟨.ok n, p', dev'⟩)
    (hn : ∀ q, ¬op.Counts q) : p'.counters = p.counters := by
  apply List.ext_getElem?
  intro q
  have hc := queueCounters?_course (p.step_course dev op) (hn q)
  rw [h] at hc
  rw [getElem?_counters, getElem?_counters, hc]

theorem counters_setUpRx {pool : PoolId} (h : p.setUpRx q pool pools dev = (.ok p', dev')) :
    p'.counters = p.counters := by
  have hs : p.step dev (.setUpRx q pool pools) = ⟨.ok 0, p', dev'⟩ := by
    rw [step, h, Effect.ofChange_ok]
  apply counters_step hs
  rintro _ ⟨⟩

theorem counters_setUpTx (h : p.setUpTx q dev = (.ok p', dev')) : p'.counters = p.counters := by
  have hs : p.step dev (.setUpTx q) = ⟨.ok 0, p', dev'⟩ := by rw [step, h, Effect.ofChange_ok]
  apply counters_step hs
  rintro _ ⟨⟩

theorem counters_equip (size : Nat) (qs : List Nat) (made : List PoolId) (p : Port κ) (dev : δ)
    (pools : Pools) : (equip size qs made p dev pools).port.counters = p.counters := by
  induction qs generalizing made p dev pools
  case nil => rfl
  case cons q rest ih =>
    simp only [equip]
    split
    case h_1 => rfl
    case h_2 hr =>
      split
      case h_1 => exact counters_setUpRx hr
      case h_2 ht => rw [ih, counters_setUpTx ht, counters_setUpRx hr]

-- Taking a port into operation counts nothing.
theorem counters_bringUp (p : Port κ) (size : Nat) (dev : δ) (pools : Pools) :
    (p.bringUp size dev pools).port.counters = p.counters := by
  simp only [bringUp]
  split
  case h_1 => rfl
  case h_2 p₁ hc =>
    have he := counters_equip size (List.range p₁.queueCount) [] p₁ dev pools
    rw [counters_configure hc] at he
    split
    case h_1 h =>
      rw [h] at he
      exact he
    case h_2 h =>
      rw [h] at he
      split
      case h_1 => exact he
      case h_2 hs => exact (counters_start hs).trans he

end Port

end TapPort
