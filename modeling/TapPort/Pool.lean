import TapPort.Bytes

namespace TapPort

-- Octets before the data of every packet, as far as the storage reaches.
def headroom : Nat := 128

structure Pool where
  name : String
  -- Octets of each storage.
  room : Nat
  -- The number of storages that belong to the pool.
  capacity : Nat
  -- The storages at hand. The last one is the next to be handed out.
  free : Array Bytes
deriving DecidableEq, Repr, Inhabited

namespace Pool

def ofCapacity (name : String) (capacity room : Nat) : Pool :=
  ⟨name, room, capacity, Array.replicate capacity (Bytes.zeros room)⟩

def available (p : Pool) : Nat := p.free.size

def inUse (p : Pool) : Nat := p.capacity - p.available

def usableRoom (p : Pool) : Nat := p.room - headroom

def last? (p : Pool) : Option Bytes := p.free.back?

def dropLast (p : Pool) : Pool := { p with free := p.free.pop }

-- Takes a storage back, filled with zeros. One of another size does not belong to the pool, and a
-- pool that is full has given none away; either is let go.
def put (p : Pool) (storage : Bytes) : Pool :=
  if storage.length = p.room ∧ p.free.size < p.capacity then
    { p with free := p.free.push (Bytes.zeros storage.length) }
  else p

-- No more storages than the capacity, each of them of zeros and of the size of the pool.
structure Sound (p : Pool) : Prop where
  bounded : p.free.size ≤ p.capacity
  scrubbed : ∀ s ∈ p.free, s = Bytes.zeros p.room

theorem sound_ofCapacity (name : String) (capacity room : Nat) :
    (ofCapacity name capacity room).Sound where
  bounded := by simp [ofCapacity]
  scrubbed := by simp [ofCapacity]

theorem Sound.put {p : Pool} (h : p.Sound) (storage : Bytes) : (p.put storage).Sound := by
  unfold Pool.put
  split
  case isFalse => exact h
  case isTrue hp =>
    constructor
    case bounded =>
      rw [Array.size_push]
      exact hp.2
    case scrubbed =>
      intro s hs
      cases Array.mem_push.1 hs
      case inl hs => exact h.scrubbed s hs
      case inr hs => rw [hs, hp.1]

theorem Sound.dropLast {p : Pool} (h : p.Sound) : p.dropLast.Sound where
  bounded := by
    have := h.bounded
    simp only [Pool.dropLast, Array.size_pop]
    omega
  scrubbed s hs := by
    simp only [Pool.dropLast, Array.mem_def, Array.toList_pop] at hs
    exact h.scrubbed s (Array.mem_def.2 (List.dropLast_subset _ hs))

theorem Sound.eq_zeros_of_last? {p : Pool} (h : p.Sound) {s : Bytes} (hs : p.last? = some s) :
    s = Bytes.zeros p.room :=
  h.scrubbed s (Array.mem_of_back? hs)

end Pool

-- The place of a pool in the table of pools.
abbrev PoolId := Nat

-- All pools, in the order in which they were made.
abbrev Pools := List Pool

namespace Pools

def available (ps : Pools) (id : PoolId) : Nat := (ps[id]?.map Pool.available).getD 0

def nameOf (ps : Pools) (id : PoolId) : String := (ps[id]?.map Pool.name).getD ""

def take (ps : Pools) (id : PoolId) : Option Bytes × Pools :=
  match ps[id]?.bind Pool.last? with
  | some storage => (some storage, ps.modify id Pool.dropLast)
  | none => (none, ps)

def put (ps : Pools) (id : PoolId) (storage : Bytes) : Pools := ps.modify id (·.put storage)

def Sound (ps : Pools) : Prop := ∀ p ∈ ps, p.Sound

end Pools

end TapPort
