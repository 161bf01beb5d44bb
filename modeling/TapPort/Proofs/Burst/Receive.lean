import TapPort.Device.Scripted
import TapPort.Proofs.Device.Receiving
import TapPort.Proofs.Port.Counting
import TapPort.Proofs.Streak

namespace TapPort

-- What is behind the place of an overlay is an overlay of what was there.
theorem Bytes.drop_overlay {pos : Nat} {src dst : Bytes} (h : pos ≤ dst.length) :
    (overlay pos src dst).drop pos = overlay 0 src (dst.drop pos) := by
  have hl : (dst.take pos).length = pos := List.length_take_of_le h
  simp [overlay, List.append_assoc, hl]

namespace Pool

-- A pool that gave a storage away is what it was when it has one back.
theorem Sound.put_dropLast {p : Pool} (h : p.Sound) {s storage : Bytes} (hs : p.last? = some s)
    (hl : storage.length = p.room) : p.dropLast.put storage = p := by
  have ⟨ys, hy⟩ := Array.back?_eq_some_iff.1 hs
  have hz := h.eq_zeros_of_last? hs
  have hb : p.dropLast.free.size < p.dropLast.capacity := by
    have ha := available_dropLast hs
    have hb := h.bounded
    unfold available at ha
    exact Nat.lt_of_lt_of_le (Nat.lt_of_succ_le (Nat.le_of_eq ha)) hb
  rw [Pool.put, if_pos ⟨hl, hb⟩, hl]
  change (⟨p.name, p.room, p.capacity, p.free.pop.push (Bytes.zeros p.room)⟩ : Pool) = p
  rw [hy, Array.pop_push, ← hz, ← hy]

end Pool

namespace Pools

variable {ps ps' : Pools} {id : PoolId} {b c : Buffer}

theorem getElem?_alloc_ne {i : PoolId} (h : i ≠ id) : (Buffer.alloc id ps).2[i]? = ps[i]? := by
  simp only [Buffer.alloc, take]
  split
  case h_1 => exact List.getElem?_modify_ne _ _ h.symm
  case h_2 => rfl

theorem of_alloc (hs : ps.Sound) (ha : Buffer.alloc id ps = (some b, ps')) :
    ps'.Sound ∧ ps'.available id + 1 = ps.available id := by
  have ⟨p, hp, _⟩ := hs.eq_of_alloc (congrArg Prod.fst ha)
  have ⟨_, hs', _, hv⟩ := of_alloc_some hs (congrArg (Option.map Pool.room) hp) ha
  exact ⟨hs', hv⟩

theorem eq_of_alloc_none (h : Buffer.alloc id ps = (none, ps')) : ps' = ps := by
  have ht : (ps.take id).1 = none := Option.map_eq_none_iff.1 (congrArg Prod.fst h)
  have hp : (ps.take id).2 = ps' := congrArg Prod.snd h
  exact hp ▸ (take_eq_none (Prod.ext ht rfl)).2

-- A buffer that goes back leaves the pools as they were before it was drawn.
theorem Sound.release_alloc (hs : ps.Sound) (ha : Buffer.alloc id ps = (some b, ps'))
    (ho : c.origin = b.origin) : c.release ps' = ps := by
  have ⟨storage, ht, hb⟩ := Option.map_eq_some_iff.1 (congrArg Prod.fst ha)
  have ⟨p, hp, hl, he⟩ := take_eq_some (Prod.ext ht rfl)
  have hps : ps' = ps.modify id Pool.dropLast := (congrArg Prod.snd ha).symm.trans he
  have hr := (hs p (List.mem_of_getElem? hp)).length_eq hl
  injection ho with hc hn
  have hid : c.pool = id := hc.trans (hb ▸ rfl)
  have hn : c.storage.length = p.room := hn.trans (hb ▸ hr)
  rw [Buffer.release, Pools.put, hid, hps, List.modify_modify_eq]
  apply List.ext_getElem?
  intro i
  rw [List.getElem?_modify]
  by_cases hi : id = i
  case neg => simp [hi]
  case pos =>
    subst hi
    simp [hp, (hs p (List.mem_of_getElem? hp)).put_dropLast hl hn]

end Pools

-- What is read into a new buffer is its data, as far as it is said to reach.
theorem Buffer.data_filled (pool : PoolId) (room : Nat) (octets : Bytes) (n : Nat) :
    (((ofStorage pool (Bytes.zeros room)).fillTail octets).setLength n).data =
      (Bytes.overlay 0 octets (Bytes.zeros (capacityOf room))).take n := by
  have hd : (Bytes.zeros room).drop (min headroom room) = Bytes.zeros (capacityOf room) :=
    List.drop_replicate
  have hl : min headroom room ≤ (Bytes.zeros room).length :=
    (Nat.min_le_right ..).trans_eq (Bytes.length_zeros room).symm
  rw [data_setLength, data_append_tail]
  simp only [fillTail, ofStorage, Bytes.length_zeros, Nat.add_zero]
  rw [Bytes.drop_overlay hl, hd]

namespace Burst

-- A buffer that is at hand, and the read that is made into it.
structure Turn where
  buffer : Buffer
  read : Read

namespace Turn

-- How many octets the read gives. One that fails gives none.
def reported (t : Turn) : Nat := t.read.result.toOption.getD 0

def gives (t : Turn) : Bool := 0 < t.reported

def filled (t : Turn) : Buffer := t.buffer.fillTail t.read.bytes

def packet (portId : UInt16) (t : Turn) : Buffer := (t.filled.setLength t.reported).setPort portId

-- The buffer goes back if the read gave nothing.
def settle (t : Turn) (pools : Pools) : Pools := if t.gives then pools else t.filled.release pools

variable {t : Turn} {pool : PoolId} {portId : UInt16}

section Packet

variable {room : Nat}

-- What the packet of a turn holds are the octets that were written to the buffer, over zeros and as
-- far as they are said to reach.
theorem data_packet (hb : t.buffer = .ofStorage pool (Bytes.zeros room)) :
    (t.packet portId).data =
      (Bytes.overlay 0 t.read.bytes (Bytes.zeros t.buffer.tailroom)).take t.reported := by
  have hd := Buffer.data_filled pool room t.read.bytes t.reported
  rw [← Buffer.tailroom_ofStorage pool, ← hb] at hd
  exact hd

theorem data_packet_whole (hb : t.buffer = .ofStorage pool (Bytes.zeros room))
    (he : t.reported = t.read.bytes.length) (hl : t.reported ≤ t.buffer.tailroom) :
    (t.packet portId).data = t.read.bytes := by
  have hz : t.read.bytes.length ≤ (Bytes.zeros t.buffer.tailroom).length := by
    rwa [← he, Bytes.length_zeros]
  rw [data_packet hb, Bytes.overlay_zero hz, he]
  exact List.take_left

theorem length_packet (hb : t.buffer = .ofStorage pool (Bytes.zeros room))
    (hl : t.reported ≤ t.buffer.tailroom) : (t.packet portId).length = t.reported :=
  Buffer.length_filled (congrArg Buffer.length hb) hl t.read.bytes

end Packet

variable {pools pools' : Pools}

-- A turn costs its pool a buffer if the read gave something, and nothing else.
theorem settled (hs : pools.Sound) (ha : Buffer.alloc pool pools = (some t.buffer, pools')) :
    (t.settle pools').Sound ∧
      (t.settle pools').available pool + (if t.gives then 1 else 0) = pools.available pool ∧
      ∀ id ≠ pool, (t.settle pools')[id]? = pools[id]? := by
  unfold settle
  split
  case isTrue =>
    have ⟨hs', hv⟩ := Pools.of_alloc hs ha
    have ho : ∀ id ≠ pool, (Buffer.alloc pool pools).2[id]? = pools[id]? :=
      fun _ => Pools.getElem?_alloc_ne
    rw [ha] at ho
    exact ⟨hs', hv, ho⟩
  case isFalse =>
    have hp : t.filled.release pools' = pools :=
      hs.release_alloc ha (t.buffer.origin_fillTail t.read.bytes)
    rw [hp]
    exact ⟨hs, rfl, fun _ _ => rfl⟩

end Turn

variable {κ δ : Type} [Device δ κ]

-- Turns one after another, which take the device and the pools from one state to another.
inductive Turns (handle : κ) (pool : PoolId) : List Turn → δ → Pools → δ → Pools → Prop
  | nil {dev pools} : Turns handle pool [] dev pools dev pools
  | cons {t ts dev dev₁ dev' pools pools₁ pools'} :
    Buffer.alloc pool pools = (some t.buffer, pools₁) →
    Device.read handle t.buffer.tailroom dev = (t.read, dev₁) →
    Turns handle pool ts dev₁ (t.settle pools₁) dev' pools' →
    Turns handle pool (t :: ts) dev pools dev' pools'

section Turns

variable {handle : κ} {pool : PoolId} {portId : UInt16} {n bytes : Nat} {turns : List Turn}
  {dev dev' : δ} {pools pools' : Pools} {buffers : List Buffer}

-- What there is of buffers when a burst ends.
theorem Turns.pools_eq (h : Turns handle pool turns dev pools dev' pools') (hs : pools.Sound) :
    pools'.available pool + turns.countP Turn.gives = pools.available pool ∧
      ∀ id ≠ pool, pools'[id]? = pools[id]? := by
  induction h
  case nil => exact ⟨rfl, fun _ _ => rfl⟩
  case cons ha _ _ ih =>
    have ⟨hs', hv, ho⟩ := Turn.settled hs ha
    have ⟨hv', ho'⟩ := ih hs'
    refine ⟨?_, fun id hi => (ho' id hi).trans (ho id hi)⟩
    rw [List.countP_cons, ← hv, ← hv', Nat.add_assoc]

-- The buffers at hand have nothing in them.
theorem Turns.blank (h : Turns handle pool turns dev pools dev' pools') (hs : pools.Sound) :
    ∀ t ∈ turns, ∃ room, t.buffer = .ofStorage pool (Bytes.zeros room) := by
  induction h
  case nil => exact List.forall_mem_nil _
  case cons ha _ _ ih =>
    have ⟨p, _, hb⟩ := hs.eq_of_alloc (congrArg Prod.fst ha)
    exact List.forall_mem_cons.2 ⟨⟨p.room, hb⟩, ih (Turn.settled hs ha).1⟩

theorem receive_turn {t : Turn} (ha : Buffer.alloc pool pools = (some t.buffer, pools'))
    (hr : Device.read handle t.buffer.tailroom dev = (t.read, dev')) :
    receive handle pool portId (n + 1) ⟨buffers, bytes, dev, pools⟩ =
      if t.gives then
        receive handle pool portId n
          ⟨t.packet portId :: buffers, bytes + t.reported, dev', t.settle pools'⟩
      else ⟨buffers, bytes, dev', t.settle pools'⟩ := by
  cases t
  case mk b read =>
    cases read
    case mk octets result =>
      cases result
      case error => exact receive_of_error ha hr
      case ok len =>
        cases len
        case zero => simp only [receive, ha, hr]; rfl
        case succ len => exact receive_of_ok ha hr (Nat.succ_pos len)

-- A burst makes a turn as long as there is a buffer and more is asked for, up to the first that
-- gives nothing.
theorem receive_turns (handle : κ) (pool : PoolId) (portId : UInt16) (n : Nat)
    (buffers : List Buffer) (bytes : Nat) (dev : δ) (hs : pools.Sound) :
    ∃ turns dev' pools', Turns handle pool turns dev pools dev' pools' ∧
      Streak Turn.gives (min n (pools.available pool)) turns ∧
      receive handle pool portId n ⟨buffers, bytes, dev, pools⟩ =
        ⟨((turns.filter Turn.gives).map (Turn.packet portId)).reverse ++ buffers,
          bytes + ((turns.filter Turn.gives).map Turn.reported).sum, dev', pools'⟩ := by
  induction n generalizing buffers bytes dev pools
  case zero => exact ⟨[], dev, pools, .nil, (Nat.zero_min _).symm ▸ .full, rfl⟩
  case succ n ih =>
    cases ha : Buffer.alloc pool pools
    case mk b? pools₁ =>
      cases b?
      case none =>
        refine ⟨[], dev, pools, .nil, ?_, receive_of_alloc_none (Pools.eq_of_alloc_none ha ▸ ha)⟩
        rw [Pools.of_alloc_none ha]
        exact .full
      case some b =>
        have ⟨hs₁, hv⟩ := Pools.of_alloc hs ha
        cases hr : Device.read handle b.tailroom dev
        case mk read dev₁ =>
          let t : Turn := ⟨b, read⟩
          rw [receive_turn (t := t) ha hr, ← hv, Nat.add_min_add_right]
          cases hg : t.gives
          case false =>
            refine ⟨[t], dev₁, _, .cons ha hr .nil, .failed hg, ?_⟩
            simp [hg]
          case true =>
            have hp : t.settle pools₁ = pools₁ := if_pos hg
            have ⟨turns, dev', pools', ht, hk, he⟩ :=
              ih (t.packet portId :: buffers) (bytes + t.reported) dev₁ (hp ▸ hs₁)
            refine ⟨t :: turns, dev', pools', .cons ha hr ht, .next hg (hp ▸ hk), ?_⟩
            simp [hg, he, Nat.add_assoc]

end Turns

-- What a burst of at most `n` packets does, on a queue that is open and has a pool.
structure Reception (handle : κ) (pool : PoolId) (q : QueuePair κ) (buffers : List Buffer) (n : Nat)
    (dev : δ) (pools : Pools) (o : Outcome κ δ) (turns : List Turn) : Prop where
  course : Turns handle pool turns dev pools o.dev o.pools
  -- It is over when the packets asked for are there, when there is no buffer left and when a read
  -- gave nothing, and not before.
  ends : ∀ k ≤ turns.length, k = turns.length ↔
    k = n ∨ k = pools.available pool ∨ Streak.Broken Turn.gives (turns.take k)
  gives_iff : ∀ i t, turns[i]? = some t → (0 < t.reported ↔ i < o.count)
  count_le : o.count ≤ n
  count_eq : (turns.take o.count).length = o.count
  buffers : o.buffers = buffers ++ (turns.take o.count).map (Turn.packet q.portId)
  data : ∀ t ∈ turns, (t.packet q.portId).data =
    (Bytes.overlay 0 t.read.bytes (Bytes.zeros t.buffer.tailroom)).take t.reported
  -- A read that reports what it wrote, and wrote no more than there was room for.
  whole : ∀ t ∈ turns, t.reported = t.read.bytes.length → t.reported ≤ t.buffer.tailroom →
    (t.packet q.portId).data = t.read.bytes
  length : ∀ t ∈ turns, t.reported ≤ t.buffer.tailroom → (t.packet q.portId).length = t.reported
  port : ∀ t ∈ turns, (t.packet q.portId).port = q.portId
  available : o.pools.available pool + o.count = pools.available pool
  others : ∀ id ≠ pool, o.pools[id]? = pools[id]?
  queue : o.queue = q.counted { q.counters with
    ipackets := q.counters.ipackets + UInt64.ofNat o.count
    ibytes := q.counters.ibytes + UInt64.ofNat ((turns.take o.count).map Turn.reported).sum }

section Rx

variable {handle : κ} {pool : PoolId} {q : QueuePair κ} {pools : Pools}

theorem reception (hp : q.pool = some pool) (hh : q.slot.get? = some handle) (hs : pools.Sound)
    (buffers : List Buffer) (n : Nat) (dev : δ) :
    ∃ turns, Reception handle pool q buffers n dev pools (rx q buffers n dev pools) turns := by
  have ⟨turns, dev', pools', ht, hk, hr⟩ :=
    receive_turns handle pool q.portId n [] 0 dev hs
  have ⟨hv, ho⟩ := ht.pools_eq hs
  have hl : (turns.take (turns.countP Turn.gives)).length = turns.countP Turn.gives :=
    List.length_take_of_le List.countP_le_length
  refine ⟨turns, ?_⟩
  rw [hk.filter_eq] at hr
  rw [Port.rx_eq hh hp, hr]
  simp only [List.append_nil, List.length_reverse, List.length_map, List.reverse_reverse, hl,
    Nat.zero_add]
  constructor
  case course => exact ht
  case ends =>
    intro k hle
    have hn := Nat.le_trans hle hk.length_le
    rw [hk.stops hle, ← or_assoc]
    apply or_congr_left
    omega
  case gives_iff =>
    intro i t hi
    exact decide_eq_true_iff.symm.trans (hk.works_iff hi)
  case count_le => exact Nat.le_trans hk.countP_le (Nat.min_le_left ..)
  case count_eq => exact hl
  case buffers => rfl
  case data =>
    intro t hm
    have ⟨_, hb⟩ := ht.blank hs t hm
    exact Turn.data_packet hb
  case whole =>
    intro t hm
    have ⟨_, hb⟩ := ht.blank hs t hm
    exact Turn.data_packet_whole hb
  case length =>
    intro t hm
    have ⟨_, hb⟩ := ht.blank hs t hm
    exact Turn.length_packet hb
  case port => exact fun _ _ => rfl
  case available => exact hv
  case others => exact ho
  case queue => rfl

-- A burst without a pool or a descriptor leaves everything as it is.
theorem rx_idle (h : q.pool = none ∨ q.slot.get? = none) (buffers : List Buffer) (n : Nat) (dev : δ)
    (pools : Pools) : rx q buffers n dev pools = ⟨0, q, buffers, dev, pools⟩ := by
  cases h
  case inl h => simp [rx, h]
  case inr h => simp [rx, h]

-- Whatever the device gives and whatever there is of buffers, a burst receives a packet by each
-- read but a last one that gives nothing, adds the packets to the caller's in order, and takes just
-- their buffers from the pool. Without a pool or a descriptor it does nothing.
theorem reception_of_rx (q : QueuePair κ) (buffers : List Buffer) (n : Nat) (dev : δ)
    (hs : pools.Sound) :
    (∀ pool handle, q.pool = some pool → q.slot.get? = some handle → ∃ turns,
      Reception handle pool q buffers n dev pools (rx q buffers n dev pools) turns) ∧
    (q.pool = none ∨ q.slot.get? = none →
      rx q buffers n dev pools = ⟨0, q, buffers, dev, pools⟩) :=
  ⟨fun _ _ hp hh => reception hp hh hs buffers n dev, fun h => rx_idle h buffers n dev pools⟩

-- Of three reads that a burst of eight packets may make, the second writes to its buffer and gives
-- nothing: the first makes a packet, the third is not made, and three of four buffers are left.
theorem reception_of_rx_second_empty :
    let reads := [some (.frame [1, 2, 3]), some (.claim [9, 9] 0), some (.frame [4])]
    let dev := ScriptedTap.ofScript { Script.empty with reads }
    let pools := [Pool.ofCapacity "m" 4 200]
    let q : QueuePair Nat := ⟨0, .opened 1, some 0, 7, .zero⟩
    let o := rx q [] 8 dev pools
    Pools.Sound pools ∧ o.count = 1 ∧ o.dev.script.reads = [some (.frame [4])] ∧
      Pools.available o.pools 0 = 3 ∧ o.queue.counters = ⟨1, 0, 3, 0, 0⟩ ∧
      o.buffers.map Buffer.data = [[1, 2, 3]] ∧
      ∃ turns, Reception 1 0 q [] 8 dev pools o turns := by
  intro reads dev pools q o
  have hs : Pools.Sound pools := List.forall_mem_singleton.2 (Pool.sound_ofCapacity "m" 4 200)
  have ht := (reception_of_rx q [] 8 dev hs).1 0 1 rfl rfl
  exact ⟨hs, by decide +kernel, by decide +kernel, by decide +kernel, by decide +kernel,
    by decide +kernel, ht⟩

end Rx

end Burst

end TapPort
