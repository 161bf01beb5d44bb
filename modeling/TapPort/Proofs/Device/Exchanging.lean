import TapPort.Proofs.Device.Receiving
import TapPort.Proofs.Device.Sending
import TapPort.Proofs.Host.Basic

namespace TapPort

namespace MemoryTap

-- That these frames were written, and that of those that wait only frames of one queue, if of any,
-- were taken.
structure Exchanges (own : Option Nat) (frames : List Bytes) (d d' : MemoryTap) : Prop where
  attached : d'.attached = d.attached
  waiting : ∀ id, own ≠ some id → d'.framesOf id = d.framesOf id
  log : d'.log = d.log ++ frames
  takes : ∀ n, d'.takes n = d.takes (frames.length + n)

variable {d d' d'' : MemoryTap} {own : Option Nat} {frames frames' : List Bytes}

-- What a device does not take now it does not take when more was written.
theorem takes_of_le {m n : Nat} (h : m ≤ n) (hn : d.takes n = true) : d.takes m = true := by
  simp only [takes, Bool.and_eq_true, Option.all_eq_true, decide_eq_true_eq] at hn ⊢
  exact ⟨hn.1, fun k hk => Nat.lt_of_le_of_lt h (hn.2 k hk)⟩

namespace Exchanges

theorem refl (own : Option Nat) (d : MemoryTap) : Exchanges own [] d d where
  attached := rfl
  waiting _ _ := rfl
  log := (List.append_nil _).symm
  takes n := by rw [List.length_nil, Nat.zero_add]

theorem trans (h : Exchanges own frames d d') (h' : Exchanges own frames' d' d'') :
    Exchanges own (frames ++ frames') d d'' where
  attached := h'.attached.trans h.attached
  waiting id hi := (h'.waiting id hi).trans (h.waiting id hi)
  log := by rw [h'.log, h.log, List.append_assoc]
  takes n := by rw [h'.takes, h.takes, List.length_append, Nat.add_assoc]

theorem consume (d : MemoryTap) (id j : Nat) : Exchanges (some id) [] d (d.consume id j) where
  attached := attached_consume
  waiting i hi := by
    rw [framesOf_consume, if_neg fun he => hi (congrArg some he.symm)]
  log := (List.append_nil _).symm
  takes n := by
    rw [List.length_nil, Nat.zero_add]
    rfl

theorem wrote (own : Option Nat) (d : MemoryTap) (frame : Bytes) :
    Exchanges own [frame] d (d.wrote frame) where
  attached := rfl
  waiting id _ := framesOf_congr rfl id
  log := log_wrote frame
  takes n := by rw [takes_wrote, List.length_singleton, Nat.add_comm]

theorem stays (h : Exchanges own frames d d') (ht : d.takes 0 = false) : d'.takes 0 = false := by
  by_contra hn
  rw [Bool.not_eq_false, h.takes] at hn
  rw [takes_of_le (Nat.zero_le _) hn] at ht
  cases ht

end Exchanges

-- Packets with data are sent from the front on until the device takes no more.
theorem exchanges_send (own : Option Nat) (id : Nat) {bs : List Buffer} (hb : ∀ b ∈ bs, b.data ≠ [])
    (n bytes : Nat) (d : MemoryTap) :
    let s := Burst.send id bs ⟨n, bytes, d⟩
    ∃ k ≤ bs.length, s.count = n + k ∧ Exchanges own ((bs.take k).map Buffer.data) d s.dev ∧
      (k < bs.length → s.dev.takes 0 = false) := by
  induction bs generalizing n bytes d
  case nil => exact ⟨0, Nat.le_refl 0, rfl, .refl own d, nofun⟩
  case cons b bs ih =>
    rw [List.forall_mem_cons] at hb
    cases ht : d.takes 0
    case false =>
      rw [send_stopped ht]
      exact ⟨0, Nat.zero_le _, rfl, .refl own d, fun _ => ht⟩
    case true =>
      rw [send_taken ht hb.1]
      have ⟨k, hk, hc, he, hu⟩ := ih hb.2 (n + 1) (bytes + b.length) (d.wrote b.data)
      refine ⟨k + 1, Nat.succ_le_succ hk, ?_, (Exchanges.wrote own d b.data).trans he, ?_⟩
      case refine_1 => rw [hc, Nat.add_assoc, Nat.add_comm 1]
      case refine_2 => exact fun hl => hu (Nat.lt_of_succ_lt_succ hl)

end MemoryTap

namespace Port

open MemoryTap (Exchanges upToEmpty)

variable {p : Port Nat} {q n : Nat} {d : MemoryTap} {pools : Pools} {bs : List Buffer}

-- The frames that a burst of up to `n` packets on a queue receives, as far as they fit into the
-- buffers of its pool.
def arrivals (p : Port Nat) (n : Nat) (d : MemoryTap) (pools : Pools) (q : Nat) : List Bytes :=
  match p.handle? q, p.poolOf q with
  | some id, some pool =>
    (upToEmpty (d.framesOf id) (min n (pools.available pool))).map
      (·.take ((pools[pool]?.map Pool.usableRoom).getD 0))
  | _, _ => []

-- What there is to know of the packets that a burst receives.
structure Arrives (o : Outcome Nat MemoryTap) (frames : List Bytes) : Prop where
  data : o.buffers.map Buffer.data = frames
  count : o.count = frames.length
  full : ∀ b ∈ o.buffers, b.data ≠ [] ∧ b.length = b.data.length

theorem arrives_rx (hd : d.attached.Nodup) (hs : pools.Sound)
    (hf : ∀ pool, p.poolOf q = some pool → pools.Fits pool) (n : Nat) :
    Arrives (p.rx q [] n d pools) (p.arrivals n d pools q) ∧
      Exchanges (p.handle? q) [] d (p.rx q [] n d pools).dev := by
  unfold arrivals
  split
  case h_1 id pool hh hp =>
    obtain ⟨room, hr, hl⟩ := hf pool hp
    obtain ⟨j, portId, _, hc, hdev, hb⟩ := MemoryTap.rx_arriving [] n hh hp hd hs hr hl
    have hu : (pools[pool]?.map Pool.usableRoom).getD 0 = Buffer.capacityOf room := by
      obtain ⟨p, hp, he⟩ := Option.map_eq_some_iff.1 hr
      rw [hp, ← he, Option.map_some, Option.getD_some, Pool.usableRoom, Buffer.capacityOf]
      omega
    rw [hu, hh]
    refine ⟨⟨?_, ?_, ?_⟩, hdev ▸ .consume d id j⟩
    case refine_1 =>
      rw [hb, List.nil_append, List.map_map]
      exact List.map_congr_left fun _ _ => Buffer.data_holding
    case refine_2 => rw [hc, List.length_map]
    case refine_3 =>
      rw [hb, List.nil_append, List.forall_mem_map]
      intro frame hm
      have hf : 0 < frame.length := List.length_pos_iff.2 (MemoryTap.ne_nil_of_mem_upToEmpty hm)
      rw [Buffer.carrying, Buffer.data_holding]
      refine ⟨List.length_pos_iff.1 ?_, rfl⟩
      rw [List.length_take, Buffer.capacityOf]
      omega
  case h_2 hn =>
    have hi : p.handle? q = none ∨ p.poolOf q = none := by
      by_contra hi
      simp only [not_or, ← ne_eq, Option.ne_none_iff_exists'] at hi
      obtain ⟨⟨id, hh⟩, pool, hp⟩ := hi
      exact hn id pool hh hp
    rw [MemoryTap.rx_idle hi]
    exact ⟨⟨rfl, rfl, List.forall_mem_nil _⟩, .refl _ d⟩

theorem length_arrivals_le : (p.arrivals n d pools q).length ≤ n := by
  unfold arrivals
  split
  case h_1 =>
    rw [List.length_map]
    refine Nat.le_trans (List.takeWhile_sublist _).length_le ?_
    rw [List.length_take]
    omega
  case h_2 => exact Nat.zero_le n

theorem exchanges_tx (own : Option Nat) {id : Nat} (hh : p.handle? q = some id)
    (hb : ∀ b ∈ bs, b.data ≠ []) (hl : bs.length ≤ Burst.limit) (d : MemoryTap) (pools : Pools) :
    let o := p.tx q bs d pools
    o.count ≤ bs.length ∧ o.buffers = bs.drop o.count ∧
      Exchanges own ((bs.take o.count).map Buffer.data) d o.dev ∧
      (o.count < bs.length → o.dev.takes 0 = false) := by
  have k := p.tx_course q bs d pools
  generalize p.tx q bs d pools = o at k
  cases k
  case idle h =>
    have hb : bs = [] := h.resolve_left (Nat.not_le.2 (lt_queueCount_of_handle? hh))
    subst hb
    exact ⟨Nat.le_refl 0, rfl, .refl own d, nofun⟩
  case unopened hq hs => simp [handle?, hq, hs] at hh
  case sent pair h s hq hs he =>
    rw [List.take_of_length_le hl] at he
    obtain ⟨k, hk, hc, hx, hu⟩ := MemoryTap.exchanges_send own h hb 0 0 d
    rw [he, Nat.zero_add] at hc
    rw [he] at hx hu
    dsimp only
    rw [hc]
    exact ⟨hk, rfl, hx, hu⟩

end Port

end TapPort
