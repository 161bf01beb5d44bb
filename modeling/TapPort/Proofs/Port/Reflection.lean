import TapPort.Proofs.Device.Exchanging
import TapPort.Proofs.Pool.Restoring
import TapPort.Proofs.Port.Balance

namespace TapPort

-- The octets of frames.
def octetsOf (frames : List Bytes) : Nat := (frames.map List.length).sum

-- What a queue counts that received these frames, sent the first of them, and left so many.
def Tally.ofFrames (frames : List Bytes) (sent left : Nat) : Tally where
  received := frames.length
  sent := sent
  receivedBytes := octetsOf frames
  sentBytes := octetsOf (frames.take sent)
  left := left

-- A count that is shown as these counters.
def Tally.ofCounters (c : QueueCounters) : Tally where
  received := c.ipackets.toNat
  sent := c.opackets.toNat
  receivedBytes := c.ibytes.toNat
  sentBytes := c.obytes.toNat
  left := c.errors.toNat

theorem Tally.counters_ofCounters (c : QueueCounters) : (ofCounters c).counters = c := by
  simp [counters, ofCounters]

theorem Tally.counters_ofFrames (t : Tally) (frames : List Bytes) (sent left : Nat) :
    (t.add (.ofFrames frames sent left)).counters =
      (t.counters.received frames.length (octetsOf frames)).transmitted sent
        (octetsOf (frames.take sent)) left := by
  rw [← counters_received, ← counters_sent]
  simp [ofFrames, add, zero]

namespace Port

open MemoryTap (Exchanges)

variable {p p' : Port Nat} {q n burst : Nat} {reflect : Bool} {d d' : MemoryTap} {pools : Pools}

-- What a queue receives is a matter of its descriptor, its pool and the frames that wait there.
theorem arrivals_congr (hh : p'.handle? q = p.handle? q) (hp : p'.poolOf q = p.poolOf q)
    (hw : ∀ id, p.handle? q = some id → d'.framesOf id = d.framesOf id) :
    p'.arrivals n d' pools q = p.arrivals n d pools q := by
  unfold arrivals
  rw [hh, hp]
  split
  case h_1 id _ hi _ => rw [hw id hi]
  case h_2 => rfl

theorem totalLength_of_full {bs : List Buffer} (h : ∀ b ∈ bs, b.length = b.data.length) :
    Buffer.totalLength bs = octetsOf (bs.map Buffer.data) := by
  rw [Buffer.totalLength, octetsOf, List.map_map]
  exact congrArg List.sum (List.map_congr_left h)

variable {o : Outcome Nat MemoryTap} {bs : List Buffer}

theorem rxTally_of_arrives {frames : List Bytes} (h : Arrives o frames) :
    o.rxTally [] = .ofFrames frames 0 0 := by
  rw [Outcome.rxTally, List.length_nil, List.drop_zero,
    totalLength_of_full fun b hb => (h.full b hb).2, h.data, h.count]
  rfl

-- What a queue counts that sent the first of these packets.
theorem txTally_of_drop (hl : bs.length ≤ Burst.limit) (hb : ∀ b ∈ bs, b.length = b.data.length)
    (hc : o.count ≤ bs.length) (hr : o.buffers = bs.drop o.count) :
    o.txTally bs =
      ⟨0, o.count, 0, octetsOf ((bs.map Buffer.data).take o.count), bs.length - o.count⟩ := by
  rw [Outcome.txTally, hr, List.length_drop, Nat.sub_sub_self hc, Nat.min_eq_left hl,
    totalLength_of_full fun b hm => hb b (List.mem_of_mem_take hm), List.map_take]
  rfl

-- Of the packets that a queue received, the first are sent back on it, and the others are left only
-- when the device takes no more.
theorem Arrives.sent_back {frames : List Bytes} {id : Nat} (ha : Arrives o frames)
    (own : Option Nat) (hh : o.port.handle? q = some id) (hl : frames.length ≤ Burst.limit) :
    let tx := o.port.tx q o.buffers o.dev o.pools
    tx.count ≤ frames.length ∧
      (o.rxTally []).add (tx.txTally o.buffers) =
        .ofFrames frames tx.count (frames.length - tx.count) ∧
      Exchanges own (frames.take tx.count) o.dev tx.dev ∧
      (tx.count < frames.length → tx.dev.takes 0 = false) := by
  intro tx
  have hn : o.buffers.length = frames.length := by rw [← ha.data, List.length_map]
  rw [← hn] at hl ⊢
  obtain ⟨hc, hr, hx, hu⟩ := exchanges_tx own hh (fun b hb => (ha.full b hb).1) hl o.dev o.pools
  rw [List.map_take, ha.data] at hx
  refine ⟨hc, ?_, hx, hu⟩
  rw [rxTally_of_arrives ha, txTally_of_drop hl (fun b hb => (ha.full b hb).2) hc hr, ha.data]
  simp [tx, Tally.add, Tally.ofFrames, octetsOf]

namespace Round

variable {r : Round Nat MemoryTap} {frames : List Bytes}

theorem kept_pollQueue (r : Round Nat MemoryTap) (burst : Nat) (reflect : Bool) (q : Nat) :
    (pollQueue burst reflect r q).port.handle? = r.port.handle? ∧
      (pollQueue burst reflect r q).port.poolOf = r.port.poolOf := by
  have hr := r.port.kept_rx q burst [] r.dev r.pools
  have ht (o : Outcome Nat MemoryTap) := o.port.kept_tx q o.buffers o.dev o.pools
  unfold pollQueue
  dsimp only
  split
  case isTrue => exact ⟨(ht _).1.trans hr.1, (ht _).2.trans hr.2⟩
  case isFalse => exact hr

-- What comes of the turn of a queue at which these frames arrive.
structure Turn (r : Round Nat MemoryTap) (burst : Nat) (reflect : Bool) (q : Nat)
    (frames : List Bytes) (sent : Nat) : Prop where
  packets : (r.port.rx q [] burst r.dev r.pools).buffers.map Buffer.data = frames
  le : sent ≤ frames.length
  still : reflect = false → sent = 0
  tally : r.tally burst reflect q =
    .ofFrames frames sent (if reflect then frames.length - sent else 0)
  exchanges : r.dev.Exchanges (r.port.handle? q) (frames.take sent)
    (pollQueue burst reflect r q).dev
  unsent : reflect = true → sent < frames.length →
    (pollQueue burst reflect r q).dev.takes 0 = false

theorem turn_still (ha : Arrives (r.port.rx q [] burst r.dev r.pools) frames)
    (hx : r.dev.Exchanges (r.port.handle? q) [] (r.port.rx q [] burst r.dev r.pools).dev)
    (hn : (reflect && 0 < (r.port.rx q [] burst r.dev r.pools).count) = false) :
    r.Turn burst reflect q frames (r.tally burst reflect q).sent := by
  have ht : r.tally burst reflect q = .ofFrames frames 0 0 := by
    rw [tally, rxTally_of_arrives ha, if_neg (Bool.eq_false_iff.1 hn)]
    rfl
  have hz : reflect = true → frames.length = 0 := by
    intro hr
    rw [ha.count, hr, Bool.true_and, decide_eq_false_iff_not] at hn
    exact Nat.eq_zero_of_not_pos hn
  have hl : (if reflect then frames.length - 0 else 0) = 0 := ite_eq_right_iff.2 hz
  have hd : (pollQueue burst reflect r q).dev = (r.port.rx q [] burst r.dev r.pools).dev := by
    rw [pollQueue, if_neg (Bool.eq_false_iff.1 hn)]
  have hs : (r.tally burst reflect q).sent = 0 := congrArg Tally.sent ht
  rw [hs]
  constructor
  case packets => exact ha.data
  case le => exact Nat.zero_le _
  case still => exact fun _ => rfl
  case tally => rw [hl, ht]
  case exchanges => exact hd ▸ hx
  case unsent => exact fun hr h => absurd h (hz hr ▸ Nat.lt_irrefl 0)

theorem turn_reflected (hb : burst ≤ Burst.limit)
    (ha : Arrives (r.port.rx q [] burst r.dev r.pools) frames) (hl : frames.length ≤ burst)
    (hx : r.dev.Exchanges (r.port.handle? q) [] (r.port.rx q [] burst r.dev r.pools).dev)
    (hp : 0 < (r.port.rx q [] burst r.dev r.pools).count) :
    r.Turn burst true q frames (r.tally burst true q).sent := by
  obtain ⟨id, hh⟩ : ∃ id, r.port.handle? q = some id := by
    by_contra hn
    rw [← Option.ne_none_iff_exists', not_not] at hn
    rw [MemoryTap.rx_idle (.inl hn)] at hp
    exact Nat.lt_irrefl 0 hp
  have hk := congrFun (r.port.kept_rx q burst [] r.dev r.pools).1 q
  have hp' : (true && decide (0 < (r.port.rx q [] burst r.dev r.pools).count)) = true := by
    rw [Bool.true_and, decide_eq_true hp]
  obtain ⟨o, ho⟩ : ∃ o, r.port.rx q [] burst r.dev r.pools = o := ⟨_, rfl⟩
  rw [ho] at ha hx hk
  obtain ⟨hc, ht, hw, hu⟩ := ha.sent_back (r.port.handle? q) (hk.trans hh) (Nat.le_trans hl hb)
  have hd : (pollQueue burst true r q).dev = (o.port.tx q o.buffers o.dev o.pools).dev := by
    rw [pollQueue, if_pos hp', ho]
  have he : r.tally burst true q =
      (o.rxTally []).add ((o.port.tx q o.buffers o.dev o.pools).txTally o.buffers) := by
    rw [tally, if_pos hp', ho]
  rw [← he] at ht
  rw [congrArg Tally.sent ht]
  constructor
  case packets => exact ho ▸ ha.data
  case le => exact hc
  case still =>
    intro h
    cases h
  case tally => exact ht
  case exchanges => exact hd ▸ hx.trans hw
  case unsent => exact fun _ h => hd ▸ hu h

theorem turn (hb : burst ≤ Burst.limit) (hd : r.dev.attached.Nodup) (hs : r.pools.Sound)
    (hf : ∀ pool, r.port.poolOf q = some pool → r.pools.Fits pool) :
    r.Turn burst reflect q (r.port.arrivals burst r.dev r.pools q)
      (r.tally burst reflect q).sent := by
  have ⟨ha, hx⟩ := arrives_rx hd hs hf burst
  cases hn : reflect && 0 < (r.port.rx q [] burst r.dev r.pools).count
  case false => exact turn_still ha hx hn
  case true =>
    rw [Bool.and_eq_true, decide_eq_true_eq] at hn
    rw [hn.1]
    exact turn_reflected hb ha length_arrivals_le hx hn.2

end Round

namespace Polling

variable {t : Polling Nat MemoryTap}

-- What each queue receives of the frames that wait when the round begins.
def arrivals (t : Polling Nat MemoryTap) : Nat → List Bytes :=
  t.source.arrivals t.poll.burst.toNat t.poll.dev t.poll.pools

-- What is sent back until the round comes to queue `n`, if that many frames of each queue are.
def sentBack (t : Polling Nat MemoryTap) (sent : Nat → Nat) (n : Nat) : List Bytes :=
  (List.range n).flatMap fun q => (t.arrivals q).take (sent q)

-- That no two queues share a descriptor, and that a frame fits into the buffers of each queue.
structure Ready (t : Polling Nat MemoryTap) : Prop where
  attached : t.poll.dev.attached.Nodup
  handles : t.source.handles.Nodup
  sound : t.poll.pools.Sound
  fits : ∀ q pool, t.source.poolOf q = some pool → t.poll.pools.Fits pool

-- How things are when the round comes to queue `n`: the queues that had no turn yet have the
-- descriptors, the pools and the frames that they had.
structure Halfway (t : Polling Nat MemoryTap) (n : Nat) : Prop where
  handle : (t.upTo n).port.handle? = t.source.handle?
  pool : (t.upTo n).port.poolOf = t.source.poolOf
  pools : (t.upTo n).pools = t.poll.pools
  attached : (t.upTo n).dev.attached = t.poll.dev.attached
  waiting : ∀ q ≥ n, ∀ id, t.source.handle? q = some id →
    (t.upTo n).dev.framesOf id = t.poll.dev.framesOf id
  log : (t.upTo n).dev.log = t.poll.dev.log ++ t.sentBack (fun q => (t.tally q).sent) n

theorem burst_le_limit (t : Polling Nat MemoryTap) : t.poll.burst.toNat ≤ Burst.limit :=
  Nat.le_of_lt_succ t.poll.burst.toNat_lt

theorem sentBack_succ (sent : Nat → Nat) (n : Nat) :
    t.sentBack sent (n + 1) = t.sentBack sent n ++ (t.arrivals n).take (sent n) := by
  rw [sentBack, List.range_succ, List.flatMap_append, List.flatMap_singleton, sentBack]

theorem Halfway.turn (h : t.Halfway n) (hr : t.Ready) :
    (t.upTo n).Turn t.poll.burst.toNat t.poll.reflect n (t.arrivals n) (t.tally n).sent := by
  have ha : (t.upTo n).port.arrivals t.poll.burst.toNat (t.upTo n).dev (t.upTo n).pools n =
      t.arrivals n := by
    rw [h.pools]
    exact arrivals_congr (congrFun h.handle n) (congrFun h.pool n) (h.waiting n (Nat.le_refl n))
  rw [← ha]
  apply Round.turn t.burst_le_limit
  case hd => exact h.attached ▸ hr.attached
  case hs => exact h.pools ▸ hr.sound
  case hf => exact fun pool hp => h.pools ▸ hr.fits n pool (h.pool ▸ hp)

-- The turn of a queue concerns none of the queues after it.
theorem Halfway.succ (h : t.Halfway n) (hr : t.Ready) : t.Halfway (n + 1) := by
  have hx := (h.turn hr).exchanges
  have hk := (t.upTo n).kept_pollQueue t.poll.burst.toNat t.poll.reflect n
  rw [← upTo_succ] at hx hk
  constructor
  case handle => exact hk.1.trans h.handle
  case pool => exact hk.2.trans h.pool
  case pools =>
    rw [upTo_succ, pools_pollQueue (h.pools ▸ hr.sound), h.pools]
  case attached => exact hx.attached.trans h.attached
  case waiting =>
    intro q hq id hi
    have hne : (t.upTo n).port.handle? n ≠ some id := by
      rw [h.handle]
      exact fun hn => handle?_ne hr.handles (Nat.ne_of_lt hq) hn hi rfl
    rw [hx.waiting id hne, h.waiting q (Nat.le_of_succ_le hq) id hi]
  case log => rw [hx.log, h.log, sentBack_succ, List.append_assoc]

theorem halfway (hr : t.Ready) (n : Nat) : t.Halfway n := by
  induction n
  case zero =>
    constructor
    case handle | pool | pools | attached => rfl
    case waiting => exact fun _ _ _ _ => rfl
    case log => exact (List.append_nil _).symm
  case succ n ih => exact ih.succ hr

theorem turn (hr : t.Ready) (q : Nat) :
    (t.upTo q).Turn t.poll.burst.toNat t.poll.reflect q (t.arrivals q) (t.tally q).sent :=
  (halfway hr q).turn hr

-- A device that takes no more when one queue has had its turn takes none from the queues after it.
theorem takes_upTo (hr : t.Ready) {m : Nat} (h : m ≤ n) (ht : (t.upTo m).dev.takes 0 = false) :
    (t.upTo n).dev.takes 0 = false := by
  induction n, h using Nat.le_induction
  case base => exact ht
  case succ n _ ih =>
    rw [upTo_succ]
    exact (turn hr n).exchanges.stays ih

-- What a round comes to that sends back the first frames of each queue, so many of them: the pools
-- are as they were, and what is received, sent or counted on a queue are the frames that arrived
-- there. A frame is left only when the device takes no more.
structure Reflects (t : Polling Nat MemoryTap) (sent : Nat → Nat) : Prop where
  pools : t.round.pools = t.poll.pools
  received : t.received =
    ((List.range t.source.queueCount).map fun q => (t.arrivals q).length).sum
  packets : ∀ q, let r := t.upTo q
    (r.port.rx q [] t.poll.burst.toNat r.dev r.pools).buffers.map Buffer.data = t.arrivals q
  log : t.round.dev.log = t.poll.dev.log ++ t.sentBack sent t.source.queueCount
  le : ∀ q, sent q ≤ (t.arrivals q).length
  still : t.poll.reflect = false → ∀ q, sent q = 0
  unsent : t.poll.reflect = true → ∀ q < t.source.queueCount, sent q < (t.arrivals q).length →
    t.round.dev.takes 0 = false
  counters : ∀ q c, t.source.queueCounters? q = some c →
    t.target.queueCounters? q = some
      ((c.received (t.arrivals q).length (octetsOf (t.arrivals q))).transmitted (sent q)
        (octetsOf ((t.arrivals q).take (sent q)))
        (if t.poll.reflect then (t.arrivals q).length - sent q else 0))

theorem reflects (hr : t.Ready) : t.Reflects fun q => (t.tally q).sent := by
  constructor
  case pools => exact pools_poll hr.sound ..
  case received =>
    rw [received_eq]
    have ht (q : Nat) : (t.tally q).received = (t.arrivals q).length :=
      congrArg Tally.received (turn hr q).tally
    simp only [ht]
  case packets => exact fun q => (turn hr q).packets
  case log => exact (halfway hr _).log
  case le => exact fun q => (turn hr q).le
  case still => exact fun hn q => (turn hr q).still hn
  case unsent =>
    intro ht q hq hl
    refine takes_upTo hr hq ?_
    rw [upTo_succ]
    exact (turn hr q).unsent ht hl
  case counters =>
    intro q c hc
    have ⟨pair, hp, _⟩ := Option.map_eq_some_iff.1 hc
    have hq : q < t.source.queueCount := (List.getElem?_eq_some_iff.1 hp).1
    have hs (i : Nat) (hi : i < t.source.queueCount) : t.source.queueCounters? i =
        some (Tally.ofCounters ((t.source.queueCounters? i).getD .zero)).counters := by
      rw [Tally.counters_ofCounters, queueCounters?, List.getElem?_eq_getElem hi]
      rfl
    have ht : t.tally q = .ofFrames (t.arrivals q) (t.tally q).sent _ := (turn hr q).tally
    rw [queueCounters?_target t.readsWithin hs q hq, ht, Tally.counters_ofFrames,
      Tally.counters_ofCounters, hc, ← ht, Option.getD_some]

end Polling

end Port

end TapPort
