import TapPort.Proofs.Device.Rings
import TapPort.Proofs.Pool.Circulation
import TapPort.Proofs.Port.Bursts

namespace TapPort

variable {κ δ : Type} [Device δ κ]

namespace Buffer

variable {b : Buffer}

theorem length_tail (b : Buffer) : b.tail.length = b.tailroom := by
  simp only [tail, tailroom, List.length_drop]
  omega

theorem data_append_tail (b : Buffer) : b.data ++ b.tail = b.storage.drop b.offset := by
  rw [data, tail, ← List.drop_drop, List.take_append_drop]

-- That there is nothing behind the data.
def Blank (b : Buffer) : Prop := b.tail = Bytes.zeros b.tailroom

-- The data grows by what is behind it.
theorem data_setLength (b : Buffer) (n : Nat) :
    (b.setLength n).data = (b.data ++ b.tail).take n := by
  rw [data_append_tail]
  change (b.storage.drop b.offset).take (min n (b.storage.length - b.offset)) = _
  rw [← List.length_drop, ← List.take_eq_take_min]

-- How many octets a buffer from a pool of this room takes.
def capacityOf (room : Nat) : Nat := room - min headroom room

-- A buffer from a pool of this room, with nothing but these octets in it.
def holding (pool : PoolId) (room : Nat) (port : UInt16) (octets : Bytes) : Buffer where
  storage := Bytes.zeros (min headroom room) ++ octets ++
    Bytes.zeros (capacityOf room - octets.length)
  offset := min headroom room
  length := octets.length
  port := port
  pool := pool

section Holding

variable {pool : PoolId} {room : Nat} {port : UInt16} {octets : Bytes}

theorem tailroom_ofStorage (pool : PoolId) (room : Nat) :
    (ofStorage pool (Bytes.zeros room)).tailroom = capacityOf room := by
  simp [tailroom, ofStorage, capacityOf, Bytes.length_zeros]

-- What a buffer becomes that is filled as far as the octets reach.
theorem fill_eq_holding {n : Nat} (hn : n = octets.length) (h : n ≤ capacityOf room) :
    (((ofStorage pool (Bytes.zeros room)).fillTail octets).setLength n).setPort port =
      holding pool room port octets := by
  subst hn
  simp only [capacityOf] at h
  have hf : octets.take (room - min headroom room) = octets := List.take_of_length_le h
  have hr : room - (min headroom room + octets.length) =
      room - min headroom room - octets.length := (Nat.sub_sub ..).symm
  simp [setPort, setLength, fillTail, ofStorage, holding, Bytes.overlay, Bytes.zeros, capacityOf,
    hf, hr]

theorem data_holding : (holding pool room port octets).data = octets := by
  simp [data, holding, Bytes.zeros]

theorem blank_holding : (holding pool room port octets).Blank := by
  have ht : (holding pool room port octets).tail = Bytes.zeros (capacityOf room - octets.length) :=
    List.drop_left' (by simp [holding, Bytes.length_zeros])
  rw [Blank, ← length_tail, ht, Bytes.length_zeros]

end Holding

end Buffer

namespace Pools

-- How large the storages of a pool are does not depend on how many there are.
theorem room_refilled (ps : Pools) (id : PoolId) :
    ps[id]?.map Pool.room = (ps.map Pool.refilled)[id]?.map Pool.room := by
  rw [List.getElem?_map, Option.map_map]
  rfl

-- What is known of a storage that a pool gives away.
theorem take_eq_some {ps ps' : Pools} {id : PoolId} {storage : Bytes}
    (h : ps.take id = (some storage, ps')) :
    ∃ p, ps[id]? = some p ∧ p.last? = some storage ∧ ps' = ps.modify id Pool.dropLast := by
  simp only [take] at h
  split at h
  case h_1 hs =>
    have ⟨p, hp, hl⟩ := Option.bind_eq_some_iff.1 hs
    simp only [Prod.mk.injEq, Option.some.injEq] at h
    exact ⟨p, hp, h.1 ▸ hl, h.2.symm⟩
  case h_2 => cases h

theorem take_eq_none {ps ps' : Pools} {id : PoolId} (h : ps.take id = (none, ps')) :
    ps.available id = 0 ∧ ps' = ps := by
  simp only [take] at h
  split at h
  case h_1 => cases h
  case h_2 hs =>
    refine ⟨?_, (congrArg Prod.snd h).symm⟩
    rw [available]
    cases hp : ps[id]?
    case none => rfl
    case some p =>
      rw [hp, Option.bind_some, Pool.last?, Array.back?_eq_none_iff] at hs
      simp [Pool.available, hs]

namespace Sound

variable {ps : Pools} {b : Buffer}

theorem modify (h : ps.Sound) (id : PoolId) {f : Pool → Pool} (hf : ∀ p, p.Sound → (f p).Sound) :
    Sound (ps.modify id f) := by
  intro p hp
  have ⟨i, hi⟩ := List.mem_iff_getElem?.1 hp
  rw [List.getElem?_modify] at hi
  have ⟨p₀, hp₀, he⟩ := Option.map_eq_some_iff.1 hi
  have hs := h p₀ (List.mem_of_getElem? hp₀)
  split at he
  case isTrue => exact he ▸ hf p₀ hs
  case isFalse => exact he ▸ hs

theorem put (h : ps.Sound) (id : PoolId) (storage : Bytes) : (ps.put id storage).Sound :=
  h.modify id fun _ hp => hp.put storage

theorem take (h : ps.Sound) (id : PoolId) : (ps.take id).2.Sound := by
  simp only [Pools.take]
  split
  case h_1 => exact h.modify id fun _ hp => hp.dropLast
  case h_2 => exact h

theorem addPool (h : ps.Sound) (name : String) (capacity room : Nat) :
    Sound (ps ++ [Pool.ofCapacity name capacity room]) := by
  intro p hp
  cases List.mem_append.1 hp
  case inl hp => exact h p hp
  case inr hp => exact List.mem_singleton.1 hp ▸ Pool.sound_ofCapacity name capacity room

theorem release (h : ps.Sound) (b : Buffer) : (b.release ps).Sound := h.put b.pool b.storage

theorem releaseAll (h : ps.Sound) (bs : List Buffer) : (Buffer.releaseAll bs ps).Sound := by
  induction bs generalizing ps
  case nil => exact h
  case cons b bs ih => exact ih (h.release b)

theorem alloc (h : ps.Sound) (id : PoolId) : (Buffer.alloc id ps).2.Sound := h.take id

-- A new buffer has nothing in it.
theorem eq_of_alloc (h : ps.Sound) {id : PoolId} (ha : (Buffer.alloc id ps).1 = some b) :
    ∃ p, ps[id]? = some p ∧ b = .ofStorage id (Bytes.zeros p.room) := by
  have ⟨storage, ht, hb⟩ := Option.map_eq_some_iff.1 ha
  have ⟨p, hp, hl, _⟩ := take_eq_some (Prod.ext ht rfl)
  refine ⟨p, hp, ?_⟩
  rw [← hb, (h p (List.mem_of_getElem? hp)).eq_zeros_of_last? hl]

theorem ofBytes (h : ps.Sound) (id : PoolId) (octets : Bytes) :
    (Buffer.ofBytes id octets ps).2.Sound := by
  have ha := h.alloc id
  simp only [Buffer.ofBytes]
  split
  case h_1 he =>
    rw [he] at ha
    exact ha
  case h_2 b _ he =>
    rw [he] at ha
    split
    case h_1 => exact ha
    case h_2 => exact ha.release b

theorem fill (h : ps.Sound) (id : PoolId) (frame : Bytes) (n : Nat) (made : List Buffer) :
    (Stock.fill id frame n ps made).2.Sound := by
  induction n generalizing ps made
  case zero => exact h
  case succ n ih =>
    have ho := h.ofBytes id frame
    simp only [Stock.fill]
    split
    case h_1 he =>
      rw [he] at ho
      exact ih ho _
    case h_2 he =>
      rw [he] at ho
      exact ho

-- A buffer that a read was given is given back whatever the device wrote to it.
theorem receive (handle : κ) (pool : PoolId) (portId : UInt16) (n : Nat) {r : Burst.Receiving δ}
    (h : r.pools.Sound) : (Burst.receive handle pool portId n r).pools.Sound := by
  induction n generalizing r
  case zero => exact h
  case succ n ih =>
    have ha := h.alloc pool
    simp only [Burst.receive]
    split
    case h_1 he =>
      rw [he] at ha
      exact ha
    case h_2 b _ he =>
      rw [he] at ha
      split
      case h_1 => exact ih ha
      case h_2 octets _ _ _ _ => exact ha.release (b.fillTail octets)

theorem rx (h : ps.Sound) (p : Port κ) (q n : Nat) (bs : List Buffer) (dev : δ) :
    (p.rx q bs n dev ps).pools.Sound := by
  have k := p.rx_course q bs dev ps n
  generalize p.rx q bs n dev ps = o at k
  cases k
  case idle => exact h
  case received handle pool _ _ _ _ hr => exact hr ▸ receive handle pool _ n h

theorem tx (h : ps.Sound) (p : Port κ) (q : Nat) (bs : List Buffer) (dev : δ) :
    (p.tx q bs dev ps).pools.Sound := by
  have k := p.tx_course q bs dev ps
  generalize p.tx q bs dev ps = o at k
  cases k
  case idle | unopened => exact h
  case sent => exact h.releaseAll _

end Sound

end Pools

namespace MemoryTap

variable {pools : Pools}

-- A packet is all that there is in the buffer that it is received in.
theorem blank_of_receive (id : Nat) (pool : PoolId) (portId : UInt16) (n : Nat)
    {r : Burst.Receiving MemoryTap} (h : r.pools.Sound) {b : Buffer}
    (hb : b ∈ (Burst.receive id pool portId n r).buffers) : b ∈ r.buffers ∨ b.Blank := by
  induction n generalizing r
  case zero => exact .inl hb
  case succ n ih =>
    have ha := h.alloc pool
    simp only [Burst.receive] at hb
    split at hb
    case h_1 => exact .inl hb
    case h_2 b₀ pools he =>
      obtain ⟨p, _, hz⟩ := h.eq_of_alloc (congrArg Prod.fst he)
      rw [he] at ha
      split at hb
      case h_1 octets len _ hr =>
        have hn : len + 1 = octets.length ∧ len + 1 ≤ b₀.tailroom := by
          have hk := read_ok (congrArg (·.1.result) hr)
          rwa [show r.dev.read id b₀.tailroom = _ from hr] at hk
        rw [hz, Buffer.tailroom_ofStorage] at hn
        rw [hz, Buffer.fill_eq_holding hn.1 hn.2] at hb
        cases ih ha hb
        case inl hb =>
          cases List.mem_cons.1 hb
          case inl hb => exact .inr (hb ▸ Buffer.blank_holding)
          case inr hb => exact .inl hb
        case inr hb => exact .inr hb
      case h_2 => exact .inl hb

theorem blank_of_rx (h : pools.Sound) (p : Port Nat) (q n : Nat) (bs : List Buffer) (d : MemoryTap)
    {b : Buffer} (hb : b ∈ (p.rx q bs n d pools).buffers.drop bs.length) : b.Blank := by
  have k := p.rx_course q bs d pools n
  generalize p.rx q bs n d pools = o at k hb
  cases k
  case idle => simp at hb
  case received id pool _ pair hs hp hr =>
    rw [List.drop_left, List.mem_reverse, ← hr] at hb
    cases blank_of_receive id pool _ n h hb
    case inl hb => cases hb
    case inr hb => exact hb

end MemoryTap

namespace Stock

variable {s : Stock}

theorem sound_step (h : s.pools.Sound) (op : Op) : (s.step op).2.pools.Sound := by
  cases op
  case pool name capacity room => exact h.addPool name capacity room
  case framePool name capacity => exact h.addPool name capacity _
  case make number list frame n =>
    simp only [step]
    split
    case h_1 => exact h
    case h_2 pool _ =>
      have hf := h.fill pool frame n []
      split
      case h_1 hm | h_2 hm =>
        rw [hm] at hf
        exact hf
  case drop list n => exact h.releaseAll _
  case contents => exact h

theorem sound_act (h : s.pools.Sound) (a : Act) : (s.act a).pools.Sound := by
  cases a
  case stock op => exact sound_step h op
  case alloc pool list => exact h.alloc pool
  case ofBytes pool octets list => exact h.ofBytes pool octets
  case edit => exact h
  case rx p q n dev list => exact h.rx p q n _ dev
  case tx p q dev list => exact h.tx p q _ dev
  case shift => exact h
  case drop list i => exact h.releaseAll _

-- What may be done with pools: what a stock does, and dealing with storages that are in no buffer.
inductive Deed : Type 1 where
  | act (a : Act)
  | get (pool : PoolId)
  | put (pool : PoolId) (storage : Bytes)

def Deed.made? : Deed → Option Pool
  | act a => a.made?
  | get _ | put .. => none

def perform (s : Stock) : Deed → Stock
  | .act a => s.act a
  | .get pool => { s with pools := (s.pools.take pool).2 }
  | .put pool storage => { s with pools := s.pools.put pool storage }

def performAll (s : Stock) (deeds : List Deed) : Stock := deeds.foldl perform s

theorem sound_perform (h : s.pools.Sound) (e : Deed) : (s.perform e).pools.Sound := by
  cases e
  case act a => exact sound_act h a
  case get pool => exact h.take pool
  case put pool storage => exact h.put pool storage

theorem refilled_perform (s : Stock) (e : Deed) :
    (s.perform e).pools.map Pool.refilled = s.pools.map Pool.refilled ++ e.made?.toList := by
  cases e
  case act a => exact refilled_act s a
  all_goals refine Eq.trans ?_ (List.append_nil _).symm
  case get pool => exact (Pools.Trades.alloc pool s.pools).same
  case put pool storage => exact map_modify (fun p => p.refilled_put storage) s.pools pool

theorem sound_performAll (deeds : List Deed) : (empty.performAll deeds).pools.Sound := by
  induction deeds using List.reverseRecOn
  case nil => exact List.forall_mem_nil _
  case append_singleton deeds e ih =>
    rw [performAll, List.foldl_concat]
    exact sound_perform ih e

theorem refilled_performAll (deeds : List Deed) :
    (empty.performAll deeds).pools.map Pool.refilled = deeds.filterMap Deed.made? := by
  induction deeds using List.reverseRecOn
  case nil => rfl
  case append_singleton deeds e ih =>
    rw [performAll, List.foldl_concat, refilled_perform, ← performAll, ih, List.filterMap_append]
    cases he : e.made? <;> simp [he]

-- Whatever is done with pools and buffers, each pool has no more storages at hand than it was made
-- with, all of them of its size and zeros. So whoever takes a storage, or makes a buffer of one,
-- gets zeros, and a packet that is grown beyond its end shows zeros.
theorem scrubbed_of_run (deeds : List Deed) :
    let pools := (empty.performAll deeds).pools
    pools.map Pool.refilled = deeds.filterMap Deed.made? ∧
      (∀ (id : PoolId) (p : Pool), pools[id]? = some p →
        p.free.size ≤ p.capacity ∧ ∀ storage ∈ p.free, storage = Bytes.zeros p.room) ∧
      (∀ (id : PoolId) (storage : Bytes), (pools.take id).1 = some storage →
        ∃ p, pools[id]? = some p ∧ storage = Bytes.zeros p.room) ∧
      (∀ (id : PoolId) (b : Buffer), (Buffer.alloc id pools).1 = some b →
        ∃ p, pools[id]? = some p ∧ b.storage = Bytes.zeros p.room) ∧
      ∀ (p : Port Nat) (q n : Nat) (bs : List Buffer) (d : MemoryTap),
        ∀ b ∈ (p.rx q bs n d pools).buffers.drop bs.length,
          b.tail = Bytes.zeros b.tailroom ∧
            ∀ m, (b.setLength m).data = (b.data ++ Bytes.zeros b.tailroom).take m := by
  intro pools
  have h : pools.Sound := sound_performAll deeds
  refine ⟨refilled_performAll deeds, ?_, ?_, ?_, ?_⟩
  case refine_1 =>
    intro id p hp
    have hs := h p (List.mem_of_getElem? hp)
    exact ⟨hs.bounded, hs.scrubbed⟩
  case refine_2 =>
    intro id storage ht
    have ⟨p, hp, hl, _⟩ := Pools.take_eq_some (Prod.ext ht rfl)
    exact ⟨p, hp, (h p (List.mem_of_getElem? hp)).eq_zeros_of_last? hl⟩
  case refine_3 =>
    intro id b ha
    have ⟨p, hp, hb⟩ := h.eq_of_alloc ha
    exact ⟨p, hp, hb ▸ rfl⟩
  case refine_4 =>
    intro p q n bs d b hb
    have hz := MemoryTap.blank_of_rx h p q n bs d hb
    exact ⟨hz, fun m => hz ▸ b.data_setLength m⟩

-- A buffer with octets in it is given up, and a storage that never was the pool's is put into it.
theorem scrubbed_of_run_foreign :
    let deeds := sampleRun.map .act ++ [.act (.drop "kept" 0), .put 1 (List.replicate 200 7)]
    let pools := (empty.performAll deeds).pools
    pools.available 1 = 2 ∧ ∀ storage, (pools.take 1).1 = some storage → ∃ p : Pool,
      pools[1]? = some p ∧ storage = Bytes.zeros p.room := by
  intro deeds pools
  exact ⟨by decide +kernel, (scrubbed_of_run deeds).2.2.1 1⟩

end Stock

end TapPort
