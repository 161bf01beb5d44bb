import TapPort.Proofs.Port.Slots

namespace TapPort

namespace Port

variable {κ δ : Type} [Device δ κ]

inductive RxCourse (p : Port κ) (q : Nat) (bs : List Buffer) (n : Nat) (dev : δ) (pools : Pools) :
    Outcome κ δ → Prop
  | idle :
    p.handle? q = none ∨ p.poolOf q = none →
    RxCourse p q bs n dev pools ⟨0, p, bs, dev, pools⟩
  | received {pair h pool r} :
    p.queues[q]? = some pair →
    pair.slot.get? = some h →
    pair.pool = some pool →
    Burst.receive h pool pair.portId n ⟨[], 0, dev, pools⟩ = r →
    RxCourse p q bs n dev pools
      ⟨r.buffers.length,
        p.modifyQueue q (.counted (pair.counters.received r.buffers.length r.bytes)),
        bs ++ r.buffers.reverse, r.dev, r.pools⟩

inductive TxCourse (p : Port κ) (q : Nat) (bs : List Buffer) (dev : δ) (pools : Pools) :
    Outcome κ δ → Prop
  | idle :
    p.queueCount ≤ q ∨ bs = [] →
    TxCourse p q bs dev pools ⟨0, p, bs, dev, pools⟩
  | unopened {pair} :
    p.queues[q]? = some pair →
    pair.slot.get? = none →
    TxCourse p q bs dev pools
      ⟨0, p.modifyQueue q (.counted (pair.counters.transmitted 0 0 (bs.take Burst.limit).length)),
        bs, dev, pools⟩
  | sent {pair h s} :
    p.queues[q]? = some pair →
    pair.slot.get? = some h →
    Burst.send h (bs.take Burst.limit) ⟨0, 0, dev⟩ = s →
    TxCourse p q bs dev pools
      ⟨s.count,
        p.modifyQueue q (.counted
          (pair.counters.transmitted s.count s.bytes ((bs.take Burst.limit).length - s.count))),
        bs.drop s.count, s.dev, Buffer.releaseAll (bs.take s.count) pools⟩

section Burst

variable {p : Port κ} {q : Nat} {pair : QueuePair κ} {bs : List Buffer} {dev : δ} {pools : Pools}
  {run : QueuePair κ → List Buffer → δ → Pools → Burst.Outcome κ δ}

omit [Device δ κ] in
theorem burst_idle (hq : p.queues[q]? = some pair)
    (h : run pair bs dev pools = ⟨0, pair, bs, dev, pools⟩) :
    p.burst q bs dev pools run = ⟨0, p, bs, dev, pools⟩ := by
  have hs : p.queues.set q pair = p.queues := by
    have ⟨hl, he⟩ := List.getElem?_eq_some_iff.1 hq
    rw [← he, List.set_getElem_self]
  simp [burst, hq, h, hs]

omit [Device δ κ] in
theorem burst_counted {n : Nat} {c : QueueCounters} {bs' : List Buffer} {dev' : δ} {pools' : Pools}
    (hq : p.queues[q]? = some pair)
    (h : run pair bs dev pools = ⟨n, pair.counted c, bs', dev', pools'⟩) :
    p.burst q bs dev pools run = ⟨n, p.modifyQueue q (.counted c), bs', dev', pools'⟩ := by
  simp [burst, hq, h, modifyQueue, List.modify_eq_set_getElem?]

theorem rx_eq {h : κ} {pool : PoolId} (hs : pair.slot.get? = some h) (hp : pair.pool = some pool)
    (n : Nat) :
    Burst.rx pair bs n dev pools =
      let r := Burst.receive h pool pair.portId n ⟨[], 0, dev, pools⟩
      ⟨r.buffers.length, pair.counted (pair.counters.received r.buffers.length r.bytes),
        bs ++ r.buffers.reverse, r.dev, r.pools⟩ := by
  cases pair
  subst hp
  simp only [Burst.rx, hs]
  rfl

end Burst

variable (p : Port κ) (q : Nat) (bs : List Buffer) (dev : δ) (pools : Pools)

theorem rx_course (n : Nat) : RxCourse p q bs n dev pools (p.rx q bs n dev pools) := by
  cases hq : p.queues[q]?
  case none =>
    rw [rx, burst, hq]
    exact .idle (.inl (by simp [handle?, hq]))
  case some pair =>
    cases hs : pair.slot.get?
    case none =>
      rw [rx, burst_idle hq (by simp [Burst.rx, hs])]
      exact .idle (.inl (by simp [handle?, hq, hs]))
    case some h =>
      cases hp : pair.pool
      case none =>
        rw [rx, burst_idle hq (by simp [Burst.rx, hp])]
        exact .idle (.inr (by simp [poolOf, hq, hp]))
      case some pool =>
        rw [rx, burst_counted hq (rx_eq hs hp n)]
        exact .received hq hs hp rfl

theorem tx_course : TxCourse p q bs dev pools (p.tx q bs dev pools) := by
  cases hq : p.queues[q]?
  case none =>
    rw [tx, burst, hq]
    exact .idle (.inl (List.getElem?_eq_none_iff.1 hq))
  case some pair =>
    cases bs
    case nil =>
      have hb : Burst.tx pair [] dev pools = ⟨0, pair, [], dev, pools⟩ := rfl
      rw [tx, burst_idle hq hb]
      exact .idle (.inr rfl)
    case cons b bs =>
      cases hs : pair.slot.get?
      case none =>
        rw [tx, burst_counted hq (by simp only [Burst.tx, hs]; rfl)]
        exact .unopened hq hs
      case some h =>
        rw [tx, burst_counted hq (by simp only [Burst.tx, hs]; rfl)]
        exact .sent hq hs rfl

end Port

end TapPort
