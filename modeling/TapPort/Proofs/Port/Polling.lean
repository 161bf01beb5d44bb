import TapPort.Proofs.Port.Totals

namespace TapPort

theorem Tally.add_assoc (s t u : Tally) : (s.add t).add u = s.add (t.add u) := by
  simp only [add, Nat.add_assoc]

namespace Port

variable {κ δ : Type} [Device δ κ] {p p' : Port κ} {q i n : Nat} {dev dev' : δ}

theorem Steps.alike (s : Steps p dev p' dev') : p.Alike p' := by
  induction s
  case refl => exact .refl p
  case tail ih => exact ih.trans (alike_step ..)

namespace Round

-- What is moved on the queue that a round of polling comes to next.
def tally (r : Round κ δ) (burst : Nat) (reflect : Bool) (q : Nat) : Tally :=
  let rx := r.port.rx q [] burst r.dev r.pools
  (rx.rxTally []).add <|
    if reflect && 0 < rx.count then (rx.port.tx q rx.buffers rx.dev rx.pools).txTally rx.buffers
    else .zero

-- That no read on that queue reports more than there was room for.
def ReadsWithin (r : Round κ δ) (burst q : Nat) : Prop :=
  ∀ handle pool, r.port.handle? q = some handle → r.port.poolOf q = some pool →
    ∀ x ∈ Burst.reads handle pool burst r.dev r.pools, x.2.Within x.1

variable {r : Round κ δ} {burst : Nat} {reflect : Bool} {t : Tally}

theorem received_pollQueue :
    (pollQueue burst reflect r q).received = r.received + (r.tally burst reflect q).received := by
  simp only [pollQueue, tally, Tally.add, Outcome.rxTally]
  split <;> rfl

theorem queueCounters?_pollQueue (hw : r.ReadsWithin burst q)
    (hc : r.port.queueCounters? q = some t.counters) :
    (pollQueue burst reflect r q).port.queueCounters? q =
      some (t.add (r.tally burst reflect q)).counters := by
  have hr := queueCounters?_rx (r.port.rx_course q [] r.dev r.pools burst) hw hc
  simp only [pollQueue, tally]
  rw [← Tally.add_assoc]
  split
  case isTrue => exact queueCounters?_tx (tx_course ..) hr
  case isFalse => exact hr

theorem queueCounters?_pollQueue_ne (h : i ≠ q) :
    (pollQueue burst reflect r q).port.queueCounters? i = r.port.queueCounters? i := by
  have received : (r.port.rx q [] burst r.dev r.pools).port.queueCounters? i =
      r.port.queueCounters? i := by
    obtain ⟨c, hc⟩ := r.port.exists_rx_port q burst [] r.dev r.pools
    rw [hc, queueCounters?_counted_ne h]
  have sent (o : Outcome κ δ) :
      (o.port.tx q o.buffers o.dev o.pools).port.queueCounters? i = o.port.queueCounters? i := by
    obtain ⟨c, hc⟩ := o.port.exists_tx_port q o.buffers o.dev o.pools
    rw [hc, queueCounters?_counted_ne h]
  simp only [pollQueue]
  split
  case isTrue => rw [sent, received]
  case isFalse => rw [received]

end Round

-- A round of polling as it is asked for, with the device and the pools as it finds them.
structure Poll (δ : Type) where
  burst : UInt16
  reflect : Bool
  dev : δ
  pools : Pools

-- A round of polling, and the port that it is made on.
structure Polling (κ δ : Type) where
  source : Port κ
  poll : Poll δ

namespace Polling

-- The round when it has come to queue `q`.
def upTo (t : Polling κ δ) (q : Nat) : Round κ δ :=
  (List.range q).foldl (pollQueue t.poll.burst.toNat t.poll.reflect)
    ⟨0, t.source, t.poll.dev, t.poll.pools⟩

def round (t : Polling κ δ) : Round κ δ :=
  t.source.poll t.poll.burst.toNat t.poll.reflect t.poll.dev t.poll.pools

def target (t : Polling κ δ) : Port κ := t.round.port

-- How many packets the round says it received.
def received (t : Polling κ δ) : Nat := t.round.received

-- What the round moves on queue `q`.
def tally (t : Polling κ δ) (q : Nat) : Tally :=
  (t.upTo q).tally t.poll.burst.toNat t.poll.reflect q

def ReadsWithin (t : Polling κ δ) : Prop :=
  ∀ q < t.source.queueCount, (t.upTo q).ReadsWithin t.poll.burst.toNat q

theorem upTo_succ (t : Polling κ δ) (q : Nat) :
    t.upTo (q + 1) = pollQueue t.poll.burst.toNat t.poll.reflect (t.upTo q) q := by
  rw [upTo, List.range_succ, List.foldl_concat, upTo]

theorem received_upTo (t : Polling κ δ) (q : Nat) :
    (t.upTo q).received = ((List.range q).map fun i => (t.tally i).received).sum := by
  induction q
  case zero => rfl
  case succ q ih =>
    rw [upTo_succ, Round.received_pollQueue, ih, List.range_succ, List.map_append, List.sum_append,
      List.map_singleton, List.sum_singleton, tally]

variable {t : Polling κ δ} {tallies : Nat → Tally}

-- Each queue is counted when the round comes to it, and only then.
theorem queueCounters?_upTo (hw : t.ReadsWithin)
    (hc : ∀ q < t.source.queueCount, t.source.queueCounters? q = some (tallies q).counters)
    (hn : n ≤ t.source.queueCount) (hq : q < t.source.queueCount) :
    (t.upTo n).port.queueCounters? q =
      some (if q < n then (tallies q).add (t.tally q) else tallies q).counters := by
  induction n
  case zero => exact hc q hq
  case succ n ih =>
    replace ih := ih (Nat.le_of_succ_le hn)
    rw [upTo_succ]
    by_cases h : q = n
    case pos =>
      subst h
      rw [if_neg (Nat.lt_irrefl q)] at ih
      rw [if_pos (Nat.lt_succ_self q)]
      exact Round.queueCounters?_pollQueue (hw q hq) ih
    case neg =>
      have hl : q < n + 1 ↔ q < n := by omega
      rw [Round.queueCounters?_pollQueue_ne h, ih, if_congr hl rfl rfl]

theorem queueCounters?_target (hw : t.ReadsWithin)
    (hc : ∀ q < t.source.queueCount, t.source.queueCounters? q = some (tallies q).counters) :
    ∀ q < t.source.queueCount,
      t.target.queueCounters? q = some ((tallies q).add (t.tally q)).counters := by
  intro q hq
  have h := queueCounters?_upTo hw hc (Nat.le_refl _) hq
  rwa [if_pos hq] at h

theorem queueCount_target (t : Polling κ δ) : t.target.queueCount = t.source.queueCount :=
  (steps_poll ..).alike.queueCount

theorem received_eq (t : Polling κ δ) :
    t.received = ((List.range t.source.queueCount).map fun q => (t.tally q).received).sum :=
  t.received_upTo t.source.queueCount

end Polling

section Run

def polled (p : Port κ) (polls : List (Poll δ)) : Port κ :=
  polls.foldl (fun p poll => (Polling.mk p poll).target) p

-- The rounds of polling in order.
def pollings (p : Port κ) : List (Poll δ) → List (Polling κ δ)
  | [] => []
  | poll :: rest => ⟨p, poll⟩ :: pollings (Polling.mk p poll).target rest

theorem polled_concat (p : Port κ) (polls : List (Poll δ)) (poll : Poll δ) :
    p.polled (polls ++ [poll]) = (Polling.mk (p.polled polls) poll).target := by
  simp [polled]

theorem pollings_concat (p : Port κ) (polls : List (Poll δ)) (poll : Poll δ) :
    p.pollings (polls ++ [poll]) = p.pollings polls ++ [⟨p.polled polls, poll⟩] := by
  induction polls generalizing p
  case nil => rfl
  case cons hd tl ih => simp only [List.cons_append, pollings, ih, polled, List.foldl_cons]

theorem queueCount_polled (p : Port κ) (polls : List (Poll δ)) :
    (p.polled polls).queueCount = p.queueCount := by
  induction polls using List.reverseRecOn
  case nil => rfl
  case append_singleton polls poll ih => rw [polled_concat, Polling.queueCount_target, ih]

theorem of_mem_pollings {polls : List (Poll δ)} :
    ∀ t ∈ p.pollings polls, t.poll ∈ polls ∧ t.source.queueCount = p.queueCount := by
  induction polls using List.reverseRecOn
  case nil => exact List.forall_mem_nil _
  case append_singleton polls poll ih =>
    rw [pollings_concat, List.forall_mem_append, List.forall_mem_singleton]
    refine ⟨?_, List.mem_append_right _ (List.mem_singleton_self poll), queueCount_polled p polls⟩
    exact fun t ht => ⟨List.mem_append_left _ (ih t ht).1, (ih t ht).2⟩

-- What all rounds together moved on queue `q`.
def tallied (p : Port κ) (polls : List (Poll δ)) (q : Nat) : Tally :=
  .total ((p.pollings polls).map (·.tally q))

theorem tallied_concat (p : Port κ) (polls : List (Poll δ)) (poll : Poll δ) (q : Nat) :
    p.tallied (polls ++ [poll]) q =
      (p.tallied polls q).add ((Polling.mk (p.polled polls) poll).tally q) := by
  rw [tallied, pollings_concat, List.map_append, List.map_singleton, Tally.total_concat, tallied]

theorem queueCounters?_polled {polls : List (Poll δ)}
    (hz : ∀ q < p.queueCount, p.queueCounters? q = some .zero)
    (hw : ∀ t ∈ p.pollings polls, t.ReadsWithin) :
    ∀ q < p.queueCount, (p.polled polls).queueCounters? q = some (p.tallied polls q).counters := by
  induction polls using List.reverseRecOn
  case nil => exact hz
  case append_singleton polls poll ih =>
    rw [pollings_concat, List.forall_mem_append, List.forall_mem_singleton] at hw
    intro q hq
    rw [polled_concat, tallied_concat]
    have hn := p.queueCount_polled polls
    exact Polling.queueCounters?_target hw.2 (fun i hi => ih hw.1 i (hn ▸ hi)) q (hn ▸ hq)

-- What the rounds say they received is what they received on all queues.
theorem sum_received (p : Port κ) (polls : List (Poll δ)) :
    ((p.pollings polls).map (·.received)).sum =
      ((List.range p.queueCount).map fun q => (p.tallied polls q).received).sum := by
  induction polls using List.reverseRecOn
  case nil => simp [pollings, tallied, Tally.total, Tally.zero]
  case append_singleton polls poll ih =>
    have ht := Polling.received_eq ⟨p.polled polls, poll⟩
    rw [queueCount_polled] at ht
    simp only [pollings_concat, List.map_append, List.sum_append, List.map_singleton,
      List.sum_singleton, ih, ht, tallied_concat, Tally.add, List.sum_map_add]

end Run

end Port

end TapPort
