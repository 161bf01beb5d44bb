import Mathlib.Data.List.TakeWhile
import TapPort.Proofs.Device.Keeping
import TapPort.Proofs.Pool.Scrubbing

namespace TapPort

namespace Buffer

-- A buffer with as much of a frame as it takes.
def carrying (pool : PoolId) (room : Nat) (port : UInt16) (frame : Bytes) : Buffer :=
  holding pool room port (frame.take (capacityOf room))

theorem data_carrying {pool : PoolId} {room : Nat} {port : UInt16} (frame : Bytes) :
    (carrying pool room port frame).data =
      frame.take ((carrying pool room port frame).storage.length -
        (carrying pool room port frame).offset) := by
  have hl : (carrying pool room port frame).storage.length -
      (carrying pool room port frame).offset = capacityOf room := by
    simp only [carrying, holding, List.length_append, Bytes.length_zeros, List.length_take]
    omega
  rw [hl, carrying, data_holding]

end Buffer

namespace Pools

variable {ps ps' : Pools} {id : PoolId} {b : Buffer}

-- Storages go from and to pools that stay of the same room.
theorem room_of_same (h : ps'.map Pool.refilled = ps.map Pool.refilled) (id : PoolId) :
    ps'[id]?.map Pool.room = ps[id]?.map Pool.room := by
  rw [room_refilled, h, ← room_refilled]

theorem of_alloc_none (h : Buffer.alloc id ps = (none, ps')) : ps.available id = 0 :=
  (take_eq_none (Prod.ext (Option.map_eq_none_iff.1 (congrArg Prod.fst h)) rfl)).1

-- A buffer is a storage less.
theorem of_alloc_some {room : Nat} (hs : ps.Sound) (hp : ps[id]?.map Pool.room = some room)
    (ha : Buffer.alloc id ps = (some b, ps')) :
    b = .ofStorage id (Bytes.zeros room) ∧ ps'.Sound ∧ ps'[id]?.map Pool.room = some room ∧
      ps'.available id + 1 = ps.available id := by
  have hs' := hs.alloc id
  have hr := room_of_same (Trades.alloc id ps).same id
  have ⟨p, hp₀, hb⟩ := hs.eq_of_alloc (congrArg Prod.fst ha)
  have ⟨storage, ht, _⟩ := Option.map_eq_some_iff.1 (congrArg Prod.fst ha)
  have ⟨p₁, hp₁, hl, he⟩ := take_eq_some (Prod.ext ht rfl)
  have hps : ps' = ps.modify id Pool.dropLast := (congrArg Prod.snd ha).symm.trans he
  cases hp₀.symm.trans hp₁
  rw [ha] at hs' hr
  refine ⟨?_, hs', hr.trans hp, ?_⟩
  case refine_1 =>
    rw [hp₀] at hp
    exact Option.some.inj hp ▸ hb
  case refine_2 =>
    rw [hps, available, List.getElem?_modify_eq, available, hp₀]
    exact Pool.available_dropLast hl

end Pools

section Turn

variable {κ δ : Type} [Device δ κ] {handle : κ} {pool : PoolId} {portId : UInt16} {n bytes : Nat}
  {buffers : List Buffer} {dev dev' : δ} {pools pools' : Pools} {b : Buffer} {octets : Bytes}

theorem Burst.receive_of_alloc_none (ha : Buffer.alloc pool pools = (none, pools')) :
    receive handle pool portId (n + 1) ⟨buffers, bytes, dev, pools⟩ =
      ⟨buffers, bytes, dev, pools'⟩ := by
  rw [receive, ha]

theorem Burst.receive_of_error {e : IoError} (ha : Buffer.alloc pool pools = (some b, pools'))
    (hr : Device.read handle b.tailroom dev = (⟨octets, .error e⟩, dev')) :
    receive handle pool portId (n + 1) ⟨buffers, bytes, dev, pools⟩ =
      ⟨buffers, bytes, dev', (b.fillTail octets).release pools'⟩ := by
  simp only [receive, ha, hr]

theorem Burst.receive_of_ok {len : Nat} (ha : Buffer.alloc pool pools = (some b, pools'))
    (hr : Device.read handle b.tailroom dev = (⟨octets, .ok len⟩, dev')) (hl : 0 < len) :
    receive handle pool portId (n + 1) ⟨buffers, bytes, dev, pools⟩ =
      receive handle pool portId n
        ⟨((b.fillTail octets).setLength len).setPort portId :: buffers, bytes + len, dev',
          pools'⟩ := by
  have ⟨m, hm⟩ := Nat.exists_eq_add_one.2 hl
  subst hm
  simp only [receive, ha, hr]

end Turn

namespace MemoryTap

variable {d : MemoryTap} {id n bytes room : Nat} {pool : PoolId} {portId : UInt16}
  {pools pools' : Pools} {buffers : List Buffer} {b : Buffer}

theorem receive_nothing (hw : d.framesOf id = [])
    (ha : Buffer.alloc pool pools = (some b, pools')) :
    Burst.receive id pool portId (n + 1) ⟨buffers, bytes, d, pools⟩ =
      ⟨buffers, bytes, d, (b.fillTail []).release pools'⟩ :=
  Burst.receive_of_error ha (show Device.read id b.tailroom d = _ from read_of_nil hw b.tailroom)

theorem receive_frame {frame : Bytes} {rest : List Bytes} (hd : d.attached.Nodup)
    (hw : d.framesOf id = frame :: rest) (hf : frame ≠ []) (hr : headroom < room)
    (ha : Buffer.alloc pool pools = (some (.ofStorage pool (Bytes.zeros room)), pools')) :
    Burst.receive id pool portId (n + 1) ⟨buffers, bytes, d, pools⟩ =
      Burst.receive id pool portId n
        ⟨.carrying pool room portId frame :: buffers,
          bytes + (frame.take (Buffer.capacityOf room)).length, d.consume id 1, pools'⟩ := by
  have hl : 0 < (frame.take (Buffer.capacityOf room)).length := by
    have hn := List.length_pos_iff.2 hf
    rw [List.length_take, Buffer.capacityOf]
    omega
  have he := read_of_frames hd hw (Buffer.ofStorage pool (Bytes.zeros room)).tailroom
  rw [Buffer.tailroom_ofStorage] at he
  rw [Burst.receive_of_ok ha (by rw [Buffer.tailroom_ofStorage]; exact he) hl,
    Buffer.fill_eq_holding rfl (List.length_take_le ..), Buffer.carrying]

-- An empty frame is lost, and ends the burst.
theorem receive_empty {rest : List Bytes} (hd : d.attached.Nodup)
    (hw : d.framesOf id = [] :: rest) (ha : Buffer.alloc pool pools = (some b, pools')) :
    Burst.receive id pool portId (n + 1) ⟨buffers, bytes, d, pools⟩ =
      ⟨buffers, bytes, d.consume id 1, (b.fillTail []).release pools'⟩ := by
  have hr : Device.read id b.tailroom d = (⟨[], .ok 0⟩, d.consume id 1) := by
    have he := read_of_frames hd hw b.tailroom
    rwa [List.take_nil] at he
  simp only [Burst.receive, ha, hr]

-- The first frames of some, up to an empty one.
def upToEmpty (frames : List Bytes) (n : Nat) : List Bytes := (frames.take n).takeWhile (· ≠ [])

theorem upToEmpty_zero (frames : List Bytes) : upToEmpty frames 0 = [] := rfl

theorem upToEmpty_nil (n : Nat) : upToEmpty [] n = [] := by
  rw [upToEmpty, List.take_nil, List.takeWhile_nil]

theorem upToEmpty_empty (rest : List Bytes) (n : Nat) : upToEmpty ([] :: rest) (n + 1) = [] := by
  rw [upToEmpty, List.take_succ_cons, List.takeWhile_cons_of_neg (by decide)]

theorem upToEmpty_cons {frame : Bytes} (h : frame ≠ []) (rest : List Bytes) (n : Nat) :
    upToEmpty (frame :: rest) (n + 1) = frame :: upToEmpty rest n := by
  unfold upToEmpty
  rw [List.take_succ_cons]
  exact List.takeWhile_cons_of_pos (decide_eq_true h)

theorem upToEmpty_eq_take {frames : List Bytes} (h : ∀ frame ∈ frames, frame ≠ []) (n : Nat) :
    upToEmpty frames n = frames.take n :=
  List.takeWhile_eq_self_iff.2 fun frame hm => decide_eq_true (h frame (List.mem_of_mem_take hm))

theorem ne_nil_of_mem_upToEmpty {frames : List Bytes} {frame : Bytes}
    (h : frame ∈ upToEmpty frames n) : frame ≠ [] := by
  have hp := List.mem_takeWhile_imp (p := (· ≠ [])) h
  exact of_decide_eq_true hp

-- Each turn takes a buffer and the first frame that waits, as long as there are both and the frame
-- is not empty.
theorem receive_arriving (id : Nat) (portId : UInt16) (n : Nat) (buffers : List Buffer)
    (bytes : Nat) (hd : d.attached.Nodup) (hs : pools.Sound)
    (hp : pools[pool]?.map Pool.room = some room) (hr : headroom < room) :
    let frames := upToEmpty (d.framesOf id) (min n (pools.available pool))
    ∃ j r, (j = frames.length ∨ [] ∈ d.framesOf id) ∧
      Burst.receive id pool portId n ⟨buffers, bytes, d, pools⟩ = r ∧ r.dev = d.consume id j ∧
      r.buffers = (frames.map (.carrying pool room portId)).reverse ++ buffers := by
  induction n generalizing d pools buffers bytes
  case zero =>
    rw [Nat.zero_min, upToEmpty_zero]
    exact ⟨0, _, .inl rfl, rfl, consume_zero.symm, rfl⟩
  case succ n ih =>
    cases ha : Buffer.alloc pool pools
    case mk b? pools' =>
      cases b?
      case none =>
        rw [Pools.of_alloc_none ha, Nat.min_zero, upToEmpty_zero]
        exact ⟨0, _, .inl rfl, Burst.receive_of_alloc_none ha, consume_zero.symm, rfl⟩
      case some b =>
        have ⟨hb, hs', hp', hl⟩ := Pools.of_alloc_some hs hp ha
        have hm : min (n + 1) (pools.available pool) = min n (pools'.available pool) + 1 := by omega
        rw [hm]
        cases hw : d.framesOf id
        case nil =>
          rw [upToEmpty_nil]
          exact ⟨0, _, .inl rfl, receive_nothing hw ha, consume_zero.symm, rfl⟩
        case cons frame rest =>
          by_cases hf : frame = []
          case pos =>
            subst hf
            rw [upToEmpty_empty]
            exact ⟨1, _, .inr List.mem_cons_self, receive_empty hd hw ha, rfl, rfl⟩
          case neg =>
            have hd' : (d.consume id 1).attached.Nodup := by rwa [attached_consume]
            have hw' : (d.consume id 1).framesOf id = rest := by
              rw [framesOf_consume_self, hw, List.drop_one, List.tail_cons]
            have ⟨j, r, hj, he, hdev, hbs⟩ := ih (.carrying pool room portId frame :: buffers)
              (bytes + (frame.take (Buffer.capacityOf room)).length) hd' hs' hp'
            rw [hw'] at hj hbs
            rw [upToEmpty_cons hf]
            refine ⟨j + 1, r, ?_, ?_, ?_, ?_⟩
            case refine_1 => exact hj.imp (congrArg (· + 1)) (List.mem_cons_of_mem _)
            case refine_2 => rw [receive_frame hd hw hf hr (hb ▸ ha), he]
            case refine_3 => rw [hdev, consume_consume, Nat.add_comm]
            case refine_4 => simp [hbs]

variable {p : Port Nat} {q : Nat}

theorem rx_idle {bs : List Buffer} (h : p.handle? q = none ∨ p.poolOf q = none) :
    p.rx q bs n d pools = ⟨0, p, bs, d, pools⟩ := by
  have k := p.rx_course q bs d pools n
  generalize p.rx q bs n d pools = o at k
  cases k
  case idle => rfl
  case received hq hs hp _ => simp [Port.handle?, Port.poolOf, hq, hs, hp] at h

theorem rx_arriving (bs : List Buffer) (n : Nat) (hh : p.handle? q = some id)
    (hq : p.poolOf q = some pool) (hd : d.attached.Nodup) (hs : pools.Sound)
    (hp : pools[pool]?.map Pool.room = some room) (hr : headroom < room) :
    let frames := upToEmpty (d.framesOf id) (min n (pools.available pool))
    ∃ j portId, (j = frames.length ∨ [] ∈ d.framesOf id) ∧
      (p.rx q bs n d pools).count = frames.length ∧ (p.rx q bs n d pools).dev = d.consume id j ∧
      (p.rx q bs n d pools).buffers = bs ++ frames.map (.carrying pool room portId) := by
  intro frames
  have k := p.rx_course q bs d pools n
  generalize p.rx q bs n d pools = o at k
  cases k
  case idle h => simp [hh, hq] at h
  case received pair id' pool' r hpair hs' hpool he =>
    have hh' : p.handle? q = some id' := by simp [Port.handle?, hpair, hs']
    have hq' : p.poolOf q = some pool' := by simp [Port.poolOf, hpair, hpool]
    cases hh.symm.trans hh'
    cases hq.symm.trans hq'
    obtain ⟨j, r', hj, he', hdev, hbs⟩ := receive_arriving id pair.portId n [] 0 hd hs hp hr
    cases he'.symm.trans he
    refine ⟨j, pair.portId, hj, ?_, hdev, ?_⟩
    case refine_1 => simp [hbs, frames]
    case refine_2 => simp [hbs, frames]

-- Where no frame is empty, the burst ends when there is no buffer or no frame left.
theorem rx_waiting (bs : List Buffer) (n : Nat) (hh : p.handle? q = some id)
    (hq : p.poolOf q = some pool) (hd : d.attached.Nodup) (hs : pools.Sound)
    (hp : pools[pool]?.map Pool.room = some room) (hr : headroom < room)
    (hf : ∀ frame ∈ d.framesOf id, frame ≠ []) :
    ∃ k portId, k = min n (min (pools.available pool) (d.framesOf id).length) ∧
      (p.rx q bs n d pools).count = k ∧ (p.rx q bs n d pools).dev = d.consume id k ∧
      (p.rx q bs n d pools).buffers =
        bs ++ ((d.framesOf id).take k).map (.carrying pool room portId) := by
  have ⟨k, portId, hk, hc, hdev, hb⟩ := rx_arriving bs n hh hq hd hs hp hr
  have hk := hk.resolve_right fun hm => hf [] hm rfl
  have hm : k = min n (min (pools.available pool) (d.framesOf id).length) := by
    rw [hk, upToEmpty_eq_take hf, List.length_take, Nat.min_assoc]
  refine ⟨k, portId, hm, hc.trans hk.symm, hdev, ?_⟩
  rw [hb, upToEmpty_eq_take hf, hm, ← Nat.min_assoc, ← List.take_eq_take_min]

end MemoryTap

end TapPort
