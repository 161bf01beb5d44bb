import Mathlib.Data.List.DropRight
import TapPort.Proofs.Device.Rings
import TapPort.Proofs.Port.Bursts
import TapPort.Proofs.Port.Course

namespace TapPort

variable {κ δ : Type}

-- What a queue has to count, each number for itself.
structure Tally where
  received : Nat
  sent : Nat
  receivedBytes : Nat
  sentBytes : Nat
  left : Nat
deriving DecidableEq, Repr

namespace Tally

def zero : Tally := ⟨0, 0, 0, 0, 0⟩

def add (t u : Tally) : Tally where
  received := t.received + u.received
  sent := t.sent + u.sent
  receivedBytes := t.receivedBytes + u.receivedBytes
  sentBytes := t.sentBytes + u.sentBytes
  left := t.left + u.left

def total (ts : List Tally) : Tally := ts.foldl add zero

-- The numbers as the counters show them, which start again at zero after the largest one.
def counters (t : Tally) : QueueCounters where
  ipackets := UInt64.ofNat t.received
  opackets := UInt64.ofNat t.sent
  ibytes := UInt64.ofNat t.receivedBytes
  obytes := UInt64.ofNat t.sentBytes
  errors := UInt64.ofNat t.left

theorem total_concat (ts : List Tally) (t : Tally) : total (ts ++ [t]) = (total ts).add t := by
  rw [total, List.foldl_concat, total]

theorem counters_received (t : Tally) (packets bytes : Nat) :
    (t.add { zero with received := packets, receivedBytes := bytes }).counters =
      t.counters.received packets bytes := by
  simp [counters, add, zero, QueueCounters.received, UInt64.ofNat_add]

theorem counters_sent (t : Tally) (packets bytes left : Nat) :
    (t.add { zero with sent := packets, sentBytes := bytes, left }).counters =
      t.counters.transmitted packets bytes left := by
  simp [counters, add, zero, QueueCounters.transmitted, UInt64.ofNat_add]

end Tally

namespace Buffer

-- The octets of data in buffers.
def totalLength (bs : List Buffer) : Nat := (bs.map Buffer.length).sum

variable {b : Buffer}

theorem totalLength_cons (b : Buffer) (bs : List Buffer) :
    totalLength (b :: bs) = b.length + totalLength bs := rfl

theorem totalLength_reverse (bs : List Buffer) : totalLength bs.reverse = totalLength bs := by
  simp [totalLength]

theorem length_of_alloc {pool : PoolId} {ps ps' : Pools} (h : alloc pool ps = (some b, ps')) :
    b.length = 0 := by
  have ⟨storage, _, hb⟩ := Option.map_eq_some_iff.1 (congrArg Prod.fst h)
  rw [← hb]
  rfl

theorem length_filled {n : Nat} (hb : b.length = 0) (hn : n ≤ b.tailroom) (octets : Bytes) :
    ((b.fillTail octets).setLength n).length = n := by
  rw [tailroom, hb] at hn
  simpa [setLength, fillTail, Bytes.length_overlay] using Nat.min_eq_left hn

end Buffer

-- That no more octets are reported than there was room for.
def Read.Within (room : Nat) (r : Read) : Prop := ∀ n, r.result = .ok n → n ≤ room

variable [Device δ κ]

namespace Burst

-- The reads of a burst, each with the room that it was given.
def reads (handle : κ) (pool : PoolId) : Nat → δ → Pools → List (Nat × Read)
  | 0, _, _ => []
  | n + 1, dev, pools =>
    match Buffer.alloc pool pools with
    | (none, _) => []
    | (some b, pools) =>
      let (r, dev) := Device.read handle b.tailroom dev
      (b.tailroom, r) ::
        match r.result with
        | .ok (_ + 1) => reads handle pool n dev pools
        | _ => []

theorem bytes_receive (handle : κ) (pool : PoolId) (portId : UInt16) (n : Nat) {r : Receiving δ}
    (hw : ∀ x ∈ reads handle pool n r.dev r.pools, x.2.Within x.1)
    (h : r.bytes = Buffer.totalLength r.buffers) :
    (receive handle pool portId n r).bytes =
      Buffer.totalLength (receive handle pool portId n r).buffers := by
  induction n generalizing r
  case zero => exact h
  case succ n ih =>
    simp only [reads] at hw
    simp only [receive]
    split
    case h_1 => exact h
    case h_2 b pools ha =>
      rw [ha] at hw
      split
      case h_1 octets len dev hr =>
        simp only [hr, List.forall_mem_cons] at hw
        have hl := Buffer.length_filled (Buffer.length_of_alloc ha) (hw.1 _ rfl) octets
        apply ih hw.2
        change r.bytes + (len + 1) = ((b.fillTail octets).setLength (len + 1)).length + _
        rw [hl, h]
        exact Nat.add_comm ..
      case h_2 => exact h

-- A burst sends packets from the front on.
theorem send_prefix (handle : κ) (bs : List Buffer) (s : Sending δ) :
    ∃ k ≤ bs.length, (send handle bs s).count = s.count + k ∧
      (send handle bs s).bytes = s.bytes + Buffer.totalLength (bs.take k) := by
  induction bs generalizing s
  case nil => exact ⟨0, Nat.le_refl 0, rfl, rfl⟩
  case cons b bs ih =>
    have stays (dev : δ) : ∃ k ≤ (b :: bs).length, { s with dev }.count = s.count + k ∧
        { s with dev }.bytes = s.bytes + Buffer.totalLength ((b :: bs).take k) :=
      ⟨0, Nat.zero_le _, rfl, rfl⟩
    simp only [send]
    split
    case h_1 =>
      split
      case h_1 dev _ =>
        obtain ⟨k, hk, hc, hb⟩ := ih ⟨s.count + 1, s.bytes + b.length, dev⟩
        refine ⟨k + 1, Nat.succ_le_succ hk, ?_, ?_⟩
        case refine_1 => rw [hc, Nat.add_assoc, Nat.add_comm 1]
        case refine_2 => rw [hb, List.take_succ_cons, Buffer.totalLength_cons, Nat.add_assoc]
      case h_2 dev _ _ => exact stays dev
    case h_2 dev _ _ => exact stays dev

end Burst

-- The device in memory reports what it writes.
theorem MemoryTap.within_of_reads {id : Nat} {pool : PoolId} {n : Nat} {d : MemoryTap}
    {pools : Pools} : ∀ x ∈ Burst.reads id pool n d pools, x.2.Within x.1 := by
  induction n generalizing d pools
  case zero => exact List.forall_mem_nil _
  case succ n ih =>
    simp only [Burst.reads]
    split
    case h_1 => exact List.forall_mem_nil _
    case h_2 b _ _ =>
      refine List.forall_mem_cons.2 ⟨?_, ?_⟩
      case refine_1 => exact fun m hm => (MemoryTap.read_ok hm).2
      case refine_2 =>
        split
        case h_1 => exact ih
        case h_2 => exact List.forall_mem_nil _

namespace Port

variable {p p' : Port κ} {q i : Nat}

section Views

variable {f : QueuePair κ → QueuePair κ}

omit [Device δ κ]

theorem queueCounters?_modifyQueue (hf : ∀ a, (f a).counters = a.counters) :
    (p.modifyQueue q f).queueCounters? i = p.queueCounters? i := by
  rw [queueCounters?, ← List.getElem?_map, modifyQueue, map_modify hf, List.getElem?_map]
  rfl

theorem queueCounters?_counted_ne (h : i ≠ q) (c : QueueCounters) :
    (p.modifyQueue q (.counted c)).queueCounters? i = p.queueCounters? i := by
  simp [queueCounters?, modifyQueue, Ne.symm h]

theorem queueCounters?_counted (h : q < p.queueCount) (c : QueueCounters) :
    (p.modifyQueue q (.counted c)).queueCounters? q = some c := by
  simp [queueCounters?, modifyQueue, List.getElem?_eq_getElem h, QueuePair.counted]

theorem queueCounters?_resetStats (h : q < p.queueCount) :
    p.resetStats.queueCounters? q = some .zero := by
  simp [queueCounters?, resetStats, List.getElem?_eq_getElem h, QueuePair.resetCounters]

end Views

theorem queueCounters?_halt (p : Port κ) (phase : Phase) (dev : δ) :
    (p.halt phase dev).1.queueCounters? q = p.queueCounters? q := by
  rw [halt_eq]
  simp only [queueCounters?, List.getElem?_map]
  cases p.queues[q]? <;> rfl

theorem queueCounters?_opening {dev dev' : δ} (o : Opening p i dev (.ok p', dev')) :
    p'.queueCounters? q = p.queueCounters? q := by
  cases o
  case already => rfl
  case joined => exact queueCounters?_modifyQueue fun _ => rfl
  case identified mac ifIndex _ _ _ _ =>
    exact queueCounters?_modifyQueue (p := { p with mac, ifIndex }) fun _ => rfl

-- The operations that are meant for the counters of a queue.
inductive Op.Counts (q : Nat) : Op → Prop
  | resetStats : Counts q .resetStats
  | rx (n : Nat) (bs : List Buffer) (pools : Pools) : Counts q (.rx q n bs pools)
  | tx (bs : List Buffer) (pools : Pools) : Counts q (.tx q bs pools)

theorem queueCounters?_course {dev : δ} {op : Op} {e : Effect κ δ} (k : Course p dev op e)
    (h : ¬op.Counts q) : e.port.queueCounters? q = p.queueCounters? q := by
  cases k
  case refused | idle | configured | started | notOpened => rfl
  case halted phase _ => exact queueCounters?_halt p phase dev
  case openedRx o =>
    refine Eq.trans (queueCounters?_modifyQueue ?_) (queueCounters?_opening o)
    exact fun _ => rfl
  case openedTx o => exact queueCounters?_opening o
  case releasedRx =>
    refine Eq.trans (queueCounters?_modifyQueue ?_) (queueCounters?_modifyQueue ?_) <;>
      exact fun _ => rfl
  case releasedTx => exact queueCounters?_modifyQueue fun _ => rfl
  case statsReset => exact (h .resetStats).elim
  case received n bs pools c =>
    apply queueCounters?_counted_ne
    intro hq
    exact h (hq ▸ .rx n bs pools)
  case sent bs pools c =>
    apply queueCounters?_counted_ne
    intro hq
    exact h (hq ▸ .tx bs pools)

-- What a receive burst adds to the counters of its queue: the packets, as it reports them, and the
-- data of the buffers that it put behind those it was given.
def Outcome.rxTally (o : Outcome κ δ) (bs : List Buffer) : Tally :=
  { Tally.zero with
    received := o.count
    receivedBytes := Buffer.totalLength (o.buffers.drop bs.length) }

-- What a transmit burst adds: the packets, the data of the buffers that it took from the front, and
-- how many of those within its reach it left.
def Outcome.txTally (o : Outcome κ δ) (bs : List Buffer) : Tally :=
  { Tally.zero with
    sent := o.count
    sentBytes := Buffer.totalLength (bs.take (bs.length - o.buffers.length))
    left := min bs.length Burst.limit - o.count }

section Bursts

variable {dev : δ} {pools : Pools} {bs : List Buffer} {o : Outcome κ δ} {tally : Tally}

theorem queueCounters?_rx {n : Nat} (k : RxCourse p q bs n dev pools o)
    (hw : ∀ handle pool, p.handle? q = some handle → p.poolOf q = some pool →
      ∀ x ∈ Burst.reads handle pool n dev pools, x.2.Within x.1)
    (hc : p.queueCounters? q = some tally.counters) :
    o.port.queueCounters? q = some (tally.add (o.rxTally bs)).counters := by
  rw [Outcome.rxTally, Tally.counters_received]
  cases k
  case idle => simp [hc, Buffer.totalLength, QueueCounters.received]
  case received pair h pool r hq hs hp hr =>
    have hh : p.handle? q = some h := by simp [handle?, hq, hs]
    have hl : p.poolOf q = some pool := by simp [poolOf, hq, hp]
    have hb := Burst.bytes_receive h pool pair.portId n (r := ⟨[], 0, dev, pools⟩)
      (hw h pool hh hl) rfl
    have hc' : pair.counters = tally.counters := by simpa [queueCounters?, hq] using hc
    rw [hr] at hb
    rw [queueCounters?_counted (lt_queueCount_of_handle? hh), List.drop_left,
      Buffer.totalLength_reverse, hb, hc']

theorem queueCounters?_tx (k : TxCourse p q bs dev pools o)
    (hc : p.queueCounters? q = some tally.counters) :
    o.port.queueCounters? q = some (tally.add (o.txTally bs)).counters := by
  have ⟨pair, hp, hpc⟩ := Option.map_eq_some_iff.1 hc
  have hq : q < p.queueCount := (List.getElem?_eq_some_iff.1 hp).1
  rw [Outcome.txTally, Tally.counters_sent]
  cases k
  case idle h =>
    have hb : bs = [] := h.resolve_left (Nat.not_le.2 hq)
    simp [hc, hb, Buffer.totalLength, QueueCounters.transmitted]
  case unopened hp' _ =>
    cases hp.symm.trans hp'
    simp [queueCounters?_counted hq, hpc, Buffer.totalLength, Nat.min_comm]
  case sent h s hp' _ he =>
    cases hp.symm.trans hp'
    have ⟨k, hk, hn, hb⟩ := Burst.send_prefix h (bs.take Burst.limit) ⟨0, 0, dev⟩
    rw [he, Nat.zero_add] at hn hb
    rw [List.length_take] at hk
    have hl : bs.length - (bs.drop k).length = k := by
      rw [List.length_drop]
      omega
    rw [queueCounters?_counted hq, hpc, hb, hn, hl, List.take_take, List.length_take,
      Nat.min_comm bs.length, Nat.min_eq_left (Nat.le_trans hk (Nat.min_le_left ..))]

end Bursts

namespace Transition

def resets (t : Transition κ δ) : Bool :=
  match t.call.op with
  | .resetStats => true
  | _ => false

-- What a transition adds to the counters of a queue: nothing, but for a burst on that queue.
def tally (t : Transition κ δ) (q : Nat) : Tally :=
  match t.call.op with
  | .rx i n bs pools =>
    if i = q then (t.source.rx i bs n t.call.dev pools).rxTally bs else .zero
  | .tx i bs pools => if i = q then (t.source.tx i bs t.call.dev pools).txTally bs else .zero
  | _ => .zero

-- That no read of a receive burst reports more than there was room for.
def ReadsWithin (t : Transition κ δ) : Prop :=
  match t.call.op with
  | .rx i n _ pools =>
    ∀ handle pool, t.source.handle? i = some handle → t.source.poolOf i = some pool →
      ∀ x ∈ Burst.reads handle pool n t.call.dev pools, x.2.Within x.1
  | _ => True

theorem queueCounters?_target {t : Transition κ δ} {tally : Tally} (hw : t.ReadsWithin)
    (hr : t.resets = false) (hc : t.source.queueCounters? q = some tally.counters) :
    t.target.queueCounters? q = some (tally.add (t.tally q)).counters := by
  cases t
  case mk source call =>
    cases call
    case mk op dev =>
      have apart (hn : ¬op.Counts q) :
          (source.step dev op).port.queueCounters? q = some (tally.add .zero).counters :=
        (queueCounters?_course (source.step_course dev op) hn).trans hc
      simp only [Transition.tally]
      cases op
      case resetStats => cases hr
      case rx i n bs pools =>
        dsimp only
        split
        case isTrue hi =>
          subst hi
          exact queueCounters?_rx (source.rx_course i bs dev pools n) hw hc
        case isFalse hi =>
          apply apart
          rintro ⟨⟩
          exact hi rfl
      case tx i bs pools =>
        dsimp only
        split
        case isTrue hi =>
          subst hi
          exact queueCounters?_tx (source.tx_course i bs dev pools) hc
        case isFalse hi =>
          apply apart
          rintro ⟨⟩
          exact hi rfl
      all_goals exact apart nofun

theorem queueCounters?_of_resets {t : Transition κ δ} (hr : t.resets = true)
    (hq : q < t.source.queueCount) : t.target.queueCounters? q = some .zero := by
  cases t
  case mk source call =>
    cases call
    case mk op dev =>
      cases op
      case resetStats => exact queueCounters?_resetStats hq
      all_goals cases hr

end Transition

theorem Made.queueCounters?_eq {p : Port κ} (hm : Made δ p) (hq : q < p.queueCount) :
    p.queueCounters? q = some .zero := by
  have ⟨_, _, _, args, _, _, h, hp, _⟩ := hm.exists_initial
  have hl : q < args.queues.toNat := by simpa [hp, queueCount, initial] using hq
  simp only [hp, queueCounters?, initial, List.getElem?_modify, List.getElem?_map,
    List.getElem?_range hl, Option.map_some]
  split <;> rfl

-- The transitions after the last reset.
def sinceReset (l : List (Transition κ δ)) : List (Transition κ δ) := l.rtakeWhile (!·.resets)

-- The counters of a queue are the sums of what the bursts on it moved since they were last set to
-- zero, each modulo the size of a counter. No operation but these bursts and resets changes them.
theorem counters_of_run {p : Port κ} {calls : List (Call δ)} (hm : Made δ p)
    (hw : ∀ t ∈ p.trace calls, t.ReadsWithin) {q : Nat} (hq : q < p.queueCount) :
    (p.run calls).queueCounters? q =
        some (Tally.total ((sinceReset (p.trace calls)).map (·.tally q))).counters ∧
      ∀ t ∈ p.trace calls, ¬t.call.op.Counts q →
        t.target.queueCounters? q = t.source.queueCounters? q := by
  constructor
  case left =>
    induction calls using List.reverseRecOn
    case nil => exact hm.queueCounters?_eq hq
    case append_singleton calls c ih =>
      rw [trace_concat] at hw ⊢
      have ih := ih fun t ht => hw t (List.mem_append_left _ ht)
      rw [run_concat, sinceReset]
      cases hr : (Transition.mk (p.run calls) c).resets
      case false =>
        rw [List.rtakeWhile_concat_pos _ _ _ (by simp [hr]), List.map_append, List.map_singleton,
          Tally.total_concat]
        exact Transition.queueCounters?_target (hw _ (by simp)) hr ih
      case true =>
        have ⟨_, hs, _⟩ := Option.map_eq_some_iff.1 ih
        rw [List.rtakeWhile_concat_neg _ _ _ (by simp [hr])]
        exact Transition.queueCounters?_of_resets hr (List.getElem?_eq_some_iff.1 hs).1
  case right =>
    intro t _ hn
    exact queueCounters?_course (t.source.step_course t.call.dev t.call.op) hn

theorem Transition.readsWithin (t : Transition Nat MemoryTap) : t.ReadsWithin := by
  simp only [ReadsWithin]
  split
  case h_1 => exact fun _ _ _ _ => MemoryTap.within_of_reads
  case h_2 => trivial

-- Three frames wait, and two of them are counted no more; the third is received, and one of two
-- packets is sent before the port is closed.
def countedCalls : List (Call MemoryTap) :=
  let pools := [Pool.ofCapacity "m" 4 2048]
  let dev := soleDevice.push [1, 2, 3] 3
  [⟨.setUpRx 0 0 pools, dev⟩, ⟨.rx 0 2 [] pools, dev⟩, ⟨.resetStats, dev⟩, ⟨.rx 0 1 [] pools, dev⟩,
    ⟨.tx 0 [⟨[7, 8], 0, 2, 0, 0⟩, ⟨[9], 0, 1, 0, 0⟩] pools, { dev with budget := some 1 }⟩,
    ⟨.shutdown, dev⟩]

theorem counters_of_run_closed :
    (∀ t ∈ sole.trace countedCalls, t.ReadsWithin) ∧ 0 < sole.queueCount ∧
      (sole.run countedCalls).queueCounters? 0 = some ⟨1, 1, 3, 2, 1⟩ := by
  have hw : ∀ t ∈ sole.trace countedCalls, t.ReadsWithin := fun t _ => t.readsWithin
  have ht : Tally.total ((sinceReset (sole.trace countedCalls)).map (·.tally 0)) =
      ⟨1, 1, 3, 2, 1⟩ := by
    decide +kernel
  have hc := (counters_of_run made_sole hw (q := 0) (by decide)).1
  rw [ht] at hc
  exact ⟨hw, by decide, hc⟩

end Port

end TapPort
