import TapPort.Proofs.Port.Totals
import TapPort.Scenario.Session

namespace TapPort

-- Statistics of queues that have counted nothing show nothing.
theorem PortStats.isZero_entered (n : Nat) :
    (entered (List.replicate n .zero) 0).isZero = true := by
  simp [isZero, entered, QueueCounters.zero]

namespace Port

variable {κ δ χ ρ : Type} [Device δ κ] [Controlled δ χ ρ] {p : Port κ} {dev : δ}

inductive Op.IsBurst : Op → Prop
  | rx (q n : Nat) (bs : List Buffer) (pools : Pools) : IsBurst (.rx q n bs pools)
  | tx (q : Nat) (bs : List Buffer) (pools : Pools) : IsBurst (.tx q bs pools)

theorem Op.not_counts {op : Op} (hb : ¬op.IsBurst) (hr : op ≠ .resetStats) (q : Nat) :
    ¬op.Counts q := by
  intro h
  cases h
  case resetStats => exact hr rfl
  case rx => exact hb (.rx ..)
  case tx => exact hb (.tx ..)

-- That no queue of a port has counted anything.
def Uncounted (p : Port κ) : Prop := ∀ q < p.queueCount, p.queueCounters? q = some .zero

section Uncounted

omit [Device δ κ] in
theorem uncounted_resetStats (p : Port κ) : p.resetStats.Uncounted := by
  intro q hq
  apply queueCounters?_resetStats
  simpa [queueCount, resetStats] using hq

theorem Uncounted.step (u : p.Uncounted) {op : Op} (h : ¬op.IsBurst) (dev : δ) :
    (p.step dev op).port.Uncounted := by
  intro q hq
  rw [(alike_step p dev op).queueCount] at hq
  by_cases hr : op = .resetStats
  case pos =>
    subst hr
    exact queueCounters?_resetStats hq
  case neg =>
    exact (queueCounters?_course (p.step_course dev op) (Op.not_counts h hr q)).trans (u q hq)

theorem Uncounted.run (u : p.Uncounted) {calls : List (Call δ)} (h : ∀ c ∈ calls, ¬c.op.IsBurst) :
    (p.run calls).Uncounted := by
  induction calls generalizing p
  case nil => exact u
  case cons c calls ih =>
    have ⟨hc, hr⟩ := List.forall_mem_cons.1 h
    exact ih (u.step hc c.dev) hr

omit [Device δ κ] in
theorem Uncounted.counters_eq (u : p.Uncounted) :
    p.counters = List.replicate p.queueCount .zero := by
  rw [counters_eq_map u, List.map_const', List.length_range]

end Uncounted

-- That one port is the other one, but for what its queues have counted.
structure SameButCounts (p p' : Port κ) : Prop where
  frame : { p' with queues := p.queues } = p
  queueCount : p'.queueCount = p.queueCount
  handle? : ∀ q, p'.handle? q = p.handle? q
  poolOf : ∀ q, p'.poolOf q = p.poolOf q

omit [Device δ κ] in
theorem sameButCounts_resetStats (p : Port κ) : p.SameButCounts p.resetStats where
  frame := rfl
  queueCount := List.length_map _
  handle? q := by
    simp only [handle?, resetStats, List.getElem?_map]
    cases p.queues[q]? <;> rfl
  poolOf q := by
    simp only [poolOf, resetStats, List.getElem?_map]
    cases p.queues[q]? <;> rfl

theorem Made.queueCount_run (hm : Made δ p) (calls : List (Call δ)) :
    (p.run calls).queueCount ≤ maxQueueStats := by
  rw [(alike_run p calls).queueCount]
  exact hm.queueCount_le

-- The statistics of a port have an entry for each queue, which is what that queue counts, and show
-- the sums of these as long as they can be shown. Asking for them changes nothing. When they are
-- set back nothing else of the port changes, nor does the device, and they show only zeros until a
-- burst is carried out.
theorem stats_of_run (hm : Made δ p) (calls : List (Call δ)) :
    (∀ c : Column,
      (c.list (p.run calls).stats).length = (p.run calls).queueCount ∧
      (∀ q, (c.list (p.run calls).stats)[q]? =
        ((p.run calls).queueCounters? q).map c.counter) ∧
      (((c.list (p.run calls).stats).map UInt64.toNat).sum < UInt64.size →
        (c.total (p.run calls).stats).toNat =
          ((c.list (p.run calls).stats).map UInt64.toNat).sum)) ∧
      (∀ (s : Session δ κ) (place : Nat), s.registry.ports[place]? = some (p.run calls) →
        s.attempt (.port place .stats) = some (.stats (p.run calls).stats, s) ∧
          (Device.halted s.registry.dev = false →
            s.step (.port place .stats) = some (.stats (p.run calls).stats, s))) ∧
      (p.run calls).SameButCounts (p.run calls).resetStats ∧
      (∀ dev : δ, (p.run calls).step dev .resetStats = ⟨.ok 0, (p.run calls).resetStats, dev⟩) ∧
      ∀ calls' : List (Call δ), (∀ c ∈ calls', ¬c.op.IsBurst) →
        (((p.run calls).resetStats.run calls').stats.isZero = true ∧
          ∀ c : Column, c.total ((p.run calls).resetStats.run calls').stats = 0 ∧
            c.list ((p.run calls).resetStats.run calls').stats =
              List.replicate (p.run calls).queueCount 0) := by
  have hn := hm.queueCount_run calls
  refine ⟨?_, ?_, sameButCounts_resetStats _, fun _ => rfl, ?_⟩
  case refine_1 =>
    intro c
    rw [stats_eq hn, c.list_entered, c.total_entered, List.length_map, length_counters]
    refine ⟨rfl, ?_, toNat_sum⟩
    intro q
    rw [List.getElem?_map, getElem?_counters]
  case refine_2 =>
    intro s place hp
    have ha : s.attempt (.port place .stats) = some (.stats (p.run calls).stats, s) := by
      simp [Session.attempt, hp, Session.stepPort]
    exact ⟨ha, fun hh => by simp [Session.step, ha, hh]⟩
  case refine_3 =>
    intro calls' hb
    have hr : ((p.run calls).resetStats.run calls').queueCount = (p.run calls).queueCount :=
      (alike_run _ calls').queueCount.trans (sameButCounts_resetStats _).queueCount
    have u := (uncounted_resetStats (p.run calls)).run hb
    rw [stats_eq (hr ▸ hn), u.counters_eq, hr]
    refine ⟨PortStats.isZero_entered _, ?_⟩
    intro c
    rw [c.total_entered, c.list_entered, List.map_replicate, c.counter_zero]
    exact ⟨by simp, rfl⟩

-- Three frames are received and one of two packets is sent back, which the statistics show. They
-- are set back, and the port is stopped and set up again.
theorem stats_of_run_reset :
    let pools := [Pool.ofCapacity "m" 4 2048]
    let dev := soleDevice.push [1, 2, 3] 3
    let bs : List Buffer := [⟨[7, 8], 0, 2, 0, 0⟩, ⟨[9], 0, 1, 0, 0⟩]
    let calls : List (Call MemoryTap) :=
      [⟨.setUpRx 0 0 pools, dev⟩, ⟨.rx 0 8 [] pools, dev⟩,
        ⟨.tx 0 bs pools, { dev with budget := some 1 }⟩]
    let calls' : List (Call MemoryTap) :=
      [⟨.configure ⟨1, 1⟩, dev⟩, ⟨.start, dev⟩, ⟨.stop, dev⟩, ⟨.setUpTx 0, dev⟩]
    Made MemoryTap sole ∧
      (sole.run calls).stats = ⟨3, 1, 9, 2, 1, [3], [1], [9], [2], [1]⟩ ∧
      (∀ c : Column, (c.total (sole.run calls).stats).toNat =
        ((c.list (sole.run calls).stats).map UInt64.toNat).sum) ∧
      (∀ c ∈ calls', ¬c.op.IsBurst) ∧
      ((sole.run calls).resetStats.run calls').stats.isZero = true := by
  intro pools dev bs calls calls'
  have hs : (sole.run calls).stats = ⟨3, 1, 9, 2, 1, [3], [1], [9], [2], [1]⟩ := by decide +kernel
  have hb : ∀ c ∈ calls', ¬c.op.IsBurst := by
    simp only [calls', List.forall_mem_cons]
    exact ⟨nofun, nofun, nofun, nofun, List.forall_mem_nil _⟩
  have ⟨hc, _, _, _, hz⟩ := stats_of_run made_sole calls
  refine ⟨made_sole, hs, ?_, hb, (hz calls' hb).1⟩
  intro c
  apply (hc c).2.2
  rw [hs]
  cases c <;> decide

end Port

end TapPort
