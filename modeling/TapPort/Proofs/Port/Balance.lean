import TapPort.Proofs.Port.Polling

namespace TapPort

variable {κ δ : Type}

namespace Tally

variable {t u : Tally}

theorem total_induction {P : Tally → Prop} (hz : P zero) (ha : ∀ t u, P t → P u → P (t.add u))
    (ts : List Tally) (h : ∀ t ∈ ts, P t) : P (total ts) := by
  induction ts using List.reverseRecOn
  case nil => exact hz
  case append_singleton ts t ih =>
    rw [total_concat]
    exact ha _ _ (ih fun u hu => h u (List.mem_append_left _ hu)) (h t (by simp))

-- That each packet was sent or left, and that none of them was empty.
structure Reflected (t : Tally) : Prop where
  packets : t.sent + t.left = t.received
  sent_le : t.sent ≤ t.sentBytes
  left_le : t.sentBytes + t.left ≤ t.receivedBytes
  bytes_eq : t.left = 0 → t.sentBytes = t.receivedBytes

theorem Reflected.zero : Tally.zero.Reflected := ⟨rfl, Nat.le_refl 0, Nat.le_refl 0, fun _ => rfl⟩

theorem Reflected.add (ht : t.Reflected) (hu : u.Reflected) : (t.add u).Reflected := by
  have ⟨ht₁, ht₂, ht₃, ht₄⟩ := ht
  have ⟨hu₁, hu₂, hu₃, hu₄⟩ := hu
  constructor <;> simp only [Tally.add] <;> omega

-- As long as no counter starts again at zero, the counters show the same.
theorem Reflected.counters (h : t.Reflected) (hb : t.receivedBytes < UInt64.size) :
    t.counters.opackets.toNat + t.counters.errors.toNat = t.counters.ipackets.toNat ∧
      t.counters.obytes.toNat ≤ t.counters.ibytes.toNat ∧
      (t.counters.obytes = t.counters.ibytes ↔ t.counters.errors = 0) := by
  have ⟨hp, hs, hl, he⟩ := h
  have hi (n : Nat) (hn : n ≤ t.receivedBytes) : (UInt64.ofNat n).toNat = n :=
    UInt64.toNat_ofNat_of_lt' (Nat.lt_of_le_of_lt hn hb)
  simp only [Tally.counters, ← UInt64.toNat_inj, UInt64.toNat_zero]
  rw [hi t.received (by omega), hi t.sent (by omega), hi t.left (by omega),
    hi t.sentBytes (by omega), hi t.receivedBytes (Nat.le_refl _)]
  omega

-- That nothing was sent or to be sent.
structure Unsent (t : Tally) : Prop where
  sent : t.sent = 0
  sentBytes : t.sentBytes = 0
  left : t.left = 0

theorem Unsent.zero : Tally.zero.Unsent := ⟨rfl, rfl, rfl⟩

theorem Unsent.counters (h : t.Unsent) :
    t.counters.opackets = 0 ∧ t.counters.obytes = 0 ∧ t.counters.errors = 0 := by
  simp [Tally.counters, h.sent, h.sentBytes, h.left]

theorem Unsent.add (ht : t.Unsent) (hu : u.Unsent) : (t.add u).Unsent := by
  constructor <;> simp [Tally.add, ht.sent, hu.sent, ht.sentBytes, hu.sentBytes, ht.left, hu.left]

end Tally

namespace Buffer

theorem totalLength_append (bs bs' : List Buffer) :
    totalLength (bs ++ bs') = totalLength bs + totalLength bs' := by
  simp [totalLength]

theorem length_le_totalLength {bs : List Buffer} (h : ∀ b ∈ bs, 0 < b.length) :
    bs.length ≤ totalLength bs := by
  induction bs
  case nil => exact Nat.le_refl 0
  case cons b bs ih =>
    have ⟨hb, hbs⟩ := List.forall_mem_cons.1 h
    have := ih hbs
    rw [totalLength_cons, List.length_cons]
    omega

end Buffer

-- Packets of which the first ones are sent.
theorem Tally.reflected_take {bs : List Buffer} {k : Nat} (h : ∀ b ∈ bs, 0 < b.length)
    (hk : k ≤ bs.length) :
    Reflected ⟨bs.length, k, Buffer.totalLength bs, Buffer.totalLength (bs.take k),
      bs.length - k⟩ := by
  have hs := Buffer.length_le_totalLength fun b hb => h b (List.mem_of_mem_take (i := k) hb)
  have hl := Buffer.length_le_totalLength fun b hb => h b (List.mem_of_mem_drop (i := k) hb)
  have ht := Buffer.totalLength_append (bs.take k) (bs.drop k)
  rw [List.length_take, Nat.min_eq_left hk] at hs
  rw [List.length_drop] at hl
  rw [List.take_append_drop] at ht
  refine ⟨Nat.add_sub_cancel' hk, hs, ?_, ?_⟩
  case refine_1 => simpa [ht] using hl
  case refine_2 =>
    intro hn
    rw [List.take_of_length_le (Nat.le_of_sub_eq_zero hn)]

variable [Device δ κ]

-- A burst receives no more packets than it is asked for, and none that is empty.
theorem Burst.receive_buffers (handle : κ) (pool : PoolId) (portId : UInt16) (n : Nat)
    {r : Receiving δ} (hw : ∀ x ∈ reads handle pool n r.dev r.pools, x.2.Within x.1)
    (hb : ∀ b ∈ r.buffers, 0 < b.length) :
    (receive handle pool portId n r).buffers.length ≤ r.buffers.length + n ∧
      ∀ b ∈ (receive handle pool portId n r).buffers, 0 < b.length := by
  induction n generalizing r
  case zero => exact ⟨Nat.le_refl _, hb⟩
  case succ n ih =>
    simp only [reads] at hw
    simp only [receive]
    split
    case h_1 => exact ⟨Nat.le_add_right .., hb⟩
    case h_2 b pools ha =>
      rw [ha] at hw
      split
      case h_1 octets len dev hr =>
        simp only [hr, List.forall_mem_cons] at hw
        have hl := Buffer.length_filled (Buffer.length_of_alloc ha) (hw.1 _ rfl) octets
        have hc : 0 < (((b.fillTail octets).setLength (len + 1)).setPort portId).length := by
          change 0 < ((b.fillTail octets).setLength (len + 1)).length
          rw [hl]
          exact Nat.succ_pos len
        have hs := List.forall_mem_cons (p := fun b : Buffer => 0 < b.length).2 ⟨hc, hb⟩
        have h := ih (r := ⟨_ :: r.buffers, r.bytes + (len + 1), dev, pools⟩) hw.2 hs
        rw [List.length_cons, Nat.add_assoc, Nat.add_comm 1] at h
        exact h
      case h_2 => exact ⟨Nat.le_add_right .., hb⟩

namespace Port

variable {p : Port κ} {q n : Nat} {dev : δ} {pools : Pools} {bs : List Buffer} {o : Outcome κ δ}

theorem RxCourse.buffers_of_within (k : RxCourse p q [] n dev pools o)
    (hw : ∀ handle pool, p.handle? q = some handle → p.poolOf q = some pool →
      ∀ x ∈ Burst.reads handle pool n dev pools, x.2.Within x.1) :
    o.buffers.length = o.count ∧ o.count ≤ n ∧ ∀ b ∈ o.buffers, 0 < b.length := by
  cases k
  case idle => exact ⟨rfl, Nat.zero_le n, List.forall_mem_nil _⟩
  case received pair h pool r hq hs hp hr =>
    have hh : p.handle? q = some h := by simp [handle?, hq, hs]
    have hl : p.poolOf q = some pool := by simp [poolOf, hq, hp]
    have hb := Burst.receive_buffers h pool pair.portId n (r := ⟨[], 0, dev, pools⟩)
      (hw h pool hh hl) (List.forall_mem_nil _)
    rw [hr, List.length_nil, Nat.zero_add] at hb
    simpa using hb

-- A burst takes packets from the front on, as many as it says.
theorem TxCourse.buffers_eq (k : TxCourse p q bs dev pools o) :
    o.count ≤ min bs.length Burst.limit ∧ o.buffers = bs.drop o.count := by
  cases k
  case idle | unopened => exact ⟨Nat.zero_le _, rfl⟩
  case sent h s _ _ he =>
    have ⟨k, hk, hn, _⟩ := Burst.send_prefix h (bs.take Burst.limit) ⟨0, 0, dev⟩
    rw [he, Nat.zero_add] at hn
    rw [List.length_take, Nat.min_comm] at hk
    exact ⟨hn ▸ hk, rfl⟩

section Rounds

variable {r : Round κ δ} {burst : Nat} {t : Polling κ δ} {polls : List (Poll δ)}

-- What is sent back was received in the same round, by one burst that is not too long to be sent.
theorem Round.reflected_tally (hw : r.ReadsWithin burst q) (hb : burst ≤ Burst.limit) :
    (r.tally burst true q).Reflected := by
  obtain ⟨hl, hn, hp⟩ := (r.port.rx_course q [] r.dev r.pools burst).buffers_of_within hw
  simp only [tally, Bool.true_and, decide_eq_true_eq]
  generalize r.port.rx q [] burst r.dev r.pools = rx at *
  split
  case isFalse h =>
    have hc : rx.count = 0 := Nat.eq_zero_of_not_pos h
    have hs : rx.buffers = [] := List.eq_nil_of_length_eq_zero (hl.trans hc)
    simp only [Outcome.rxTally, hc, hs]
    exact .zero
  case isTrue =>
    obtain ⟨hk, hd⟩ := (tx_course rx.port q rx.buffers rx.dev rx.pools).buffers_eq
    generalize rx.port.tx q rx.buffers rx.dev rx.pools = tx at *
    have hm : min rx.buffers.length Burst.limit = rx.buffers.length := by omega
    rw [hm] at hk
    have hs : rx.buffers.length - (rx.buffers.length - tx.count) = tx.count := Nat.sub_sub_self hk
    have ht := Tally.reflected_take hp hk
    simpa [Tally.add, Tally.zero, Outcome.rxTally, Outcome.txTally, hd, hm, hs, ← hl] using ht

theorem Round.unsent_tally : (r.tally burst false q).Unsent := ⟨rfl, rfl, rfl⟩

theorem reflected_tallied (hw : ∀ t ∈ p.pollings polls, t.ReadsWithin)
    (hr : ∀ poll ∈ polls, poll.reflect = true) (hq : q < p.queueCount) :
    (p.tallied polls q).Reflected := by
  apply Tally.total_induction .zero (fun _ _ => .add)
  rw [List.forall_mem_map]
  intro t ht
  have ⟨hm, hn⟩ := of_mem_pollings t ht
  rw [Polling.tally, hr _ hm]
  exact Round.reflected_tally (hw t ht q (hn ▸ hq)) (Nat.le_of_lt_succ t.poll.burst.toNat_lt)

theorem unsent_tallied (hr : ∀ poll ∈ polls, poll.reflect = false) :
    (p.tallied polls q).Unsent := by
  apply Tally.total_induction .zero (fun _ _ => .add)
  rw [List.forall_mem_map]
  intro t ht
  rw [Polling.tally, hr _ (of_mem_pollings t ht).1]
  exact Round.unsent_tally

end Rounds

-- That a port was made, over a device of some kind, and was then taken into operation.
def BroughtUp (δ : Type) [Device δ κ] (p : Port κ) : Prop :=
  ∃ p₀ size own, ∃ dev dev' : δ, ∃ pools pools',
    Made δ p₀ ∧ p₀.bringUp size dev pools = ⟨.ok own, p, dev', pools'⟩

theorem BroughtUp.fresh (h : BroughtUp δ p) :
    p.queueCount ≤ maxQueueStats ∧ ∀ q < p.queueCount, p.queueCounters? q = some .zero := by
  obtain ⟨p₀, size, own, dev, dev', pools, pools', hm, hb⟩ := h
  have hc := p₀.counters_bringUp size dev pools
  rw [hb] at hc
  have hn : p.queueCount = p₀.queueCount := by
    rw [← length_counters, ← length_counters, hc]
  refine ⟨hn ▸ hm.queueCount_le, ?_⟩
  intro q hq
  rw [← getElem?_counters, hc, getElem?_counters]
  exact hm.queueCounters?_eq (hn ▸ hq)

-- The statistics of a port show as received what the rounds of polling say they received. Where all
-- of them send back, each packet is counted as sent or as an error, and no octet is counted as sent
-- that was not received; where none does, nothing is counted as either. Between the rounds, the
-- device and the pools may become whatever they like.
theorem balance_of_polls {polls : List (Poll δ)} (hp : BroughtUp δ p)
    (hw : ∀ t ∈ p.pollings polls, t.ReadsWithin) :
    (p.polled polls).stats.ipackets = UInt64.ofNat ((p.pollings polls).map (·.received)).sum ∧
      ((∀ poll ∈ polls, poll.reflect = true) → ∀ q < p.queueCount,
        (p.tallied polls q).receivedBytes < UInt64.size →
          ∃ c, (p.polled polls).queueCounters? q = some c ∧
            c.opackets.toNat + c.errors.toNat = c.ipackets.toNat ∧
            c.obytes.toNat ≤ c.ibytes.toNat ∧ (c.obytes = c.ibytes ↔ c.errors = 0)) ∧
      ((∀ poll ∈ polls, poll.reflect = false) → ∀ q < p.queueCount,
        ∃ c, (p.polled polls).queueCounters? q = some c ∧
          c.opackets = 0 ∧ c.obytes = 0 ∧ c.errors = 0) := by
  have ⟨hs, hz⟩ := hp.fresh
  have hc := queueCounters?_polled hz hw
  have hn := p.queueCount_polled polls
  refine ⟨?_, ?_, ?_⟩
  case refine_1 =>
    rw [sum_received, ← hn]
    exact ipackets_stats (hn ▸ hs) (hn ▸ hc)
  case refine_2 =>
    intro hr q hq hb
    have ht := reflected_tallied hw hr hq
    exact ⟨_, hc q hq, ht.counters hb⟩
  case refine_3 =>
    intro hr q hq
    have ht : (p.tallied polls q).Unsent := unsent_tallied hr
    exact ⟨_, hc q hq, ht.counters⟩

theorem Polling.readsWithin (t : Polling Nat MemoryTap) : t.ReadsWithin :=
  fun _ _ _ _ _ _ => MemoryTap.within_of_reads

def soleUp : BringUp Nat MemoryTap := sole.bringUp 4 soleDevice []

-- Three frames wait in either round. The first one receives two of them and sends back one, the
-- second one receives and sends back all.
def solePolls : List (Poll MemoryTap) :=
  let dev := soleUp.dev.push [1, 2, 3] 3
  [⟨2, true, { dev with budget := some 1 }, soleUp.pools⟩, ⟨8, true, dev, soleUp.pools⟩]

theorem balance_of_polls_budget :
    BroughtUp MemoryTap soleUp.port ∧ (∀ t ∈ soleUp.port.pollings solePolls, t.ReadsWithin) ∧
      (soleUp.port.polled solePolls).stats.ipackets = 5 ∧
      ∃ c, (soleUp.port.polled solePolls).queueCounters? 0 = some c ∧
        c.opackets.toNat + c.errors.toNat = c.ipackets.toNat ∧
        c.obytes.toNat ≤ c.ibytes.toNat ∧ (c.obytes = c.ibytes ↔ c.errors = 0) := by
  have hp : BroughtUp MemoryTap soleUp.port :=
    ⟨sole, 4, [0], soleDevice, soleUp.dev, [], soleUp.pools, made_sole, rfl⟩
  have hw : ∀ t ∈ soleUp.port.pollings solePolls, t.ReadsWithin := fun t _ => t.readsWithin
  have ⟨hs, hr, _⟩ := balance_of_polls hp hw
  have hn : ((soleUp.port.pollings solePolls).map (·.received)).sum = 5 := by decide +kernel
  rw [hn] at hs
  exact ⟨hp, hw, hs, hr (by decide +kernel) 0 (by decide +kernel) (by decide +kernel)⟩

end Port

end TapPort
