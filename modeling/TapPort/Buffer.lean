import TapPort.Pool
import TapPort.Text.Quoted
import TapPort.Text.Record

namespace TapPort

-- A storage drawn from a pool, cut into headroom, data and tailroom. The data begins at a fixed
-- place and grows into the tailroom.
structure Buffer where
  storage : Bytes
  offset : Nat
  length : Nat
  -- The port that the packet came in on.
  port : UInt16
  -- Where the storage goes back to.
  pool : PoolId
deriving DecidableEq, Repr

namespace Buffer

def ofStorage (pool : PoolId) (storage : Bytes) : Buffer :=
  ⟨storage, min headroom storage.length, 0, 0, pool⟩

def InBounds (b : Buffer) : Prop := b.offset + b.length ≤ b.storage.length

def data (b : Buffer) : Bytes := (b.storage.drop b.offset).take b.length

def tail (b : Buffer) : Bytes := b.storage.drop (b.offset + b.length)

def tailroom (b : Buffer) : Nat := b.storage.length - b.offset - b.length

-- Writes over the front of the tailroom and leaves the data as it is.
def fillTail (b : Buffer) (bs : Bytes) : Buffer :=
  { b with storage := Bytes.overlay (b.offset + b.length) bs b.storage }

-- Adds octets to the data, if the tailroom holds them.
def append? (b : Buffer) (bs : Bytes) : Option Buffer :=
  if bs.length ≤ b.tailroom then some { b.fillTail bs with length := b.length + bs.length }
  else none

-- Moves the end of the data, no further than the end of the storage.
def setLength (b : Buffer) (n : Nat) : Buffer :=
  { b with length := min n (b.storage.length - b.offset) }

def setPort (b : Buffer) (port : UInt16) : Buffer := { b with port }

def poke? (b : Buffer) (i : Nat) (v : UInt8) : Option Buffer :=
  if i < b.length then some { b with storage := b.storage.set (b.offset + i) v } else none

def pokeTail? (b : Buffer) (i : Nat) (v : UInt8) : Option Buffer :=
  if i < b.tailroom then
    some { b with storage := b.storage.set (b.offset + b.length + i) v }
  else none

-- An empty buffer, if its pool has a storage left.
def alloc (pool : PoolId) (ps : Pools) : Option Buffer × Pools :=
  let (storage, ps) := ps.take pool
  (storage.map (ofStorage pool), ps)

def release (b : Buffer) (ps : Pools) : Pools := ps.put b.pool b.storage

def releaseAll (bs : List Buffer) (ps : Pools) : Pools := bs.foldl (fun ps b => b.release ps) ps

-- A buffer with data, if its pool has a storage left and that has room for the data.
def ofBytes (pool : PoolId) (bs : Bytes) (ps : Pools) : Option Buffer × Pools :=
  match alloc pool ps with
  | (none, ps) => (none, ps)
  | (some b, ps) =>
    match b.append? bs with
    | some b => (some b, ps)
    | none => (none, b.release ps)

-- The buffer as a record, but for its octets.
def inRecord (b : Buffer) (ps : Pools) : String :=
  Text.record "Mbuf"
    [("pool", Text.quoted (ps.nameOf b.pool)), ("port", toString b.port.toNat),
      ("data_off", toString b.offset), ("data_len", toString b.length),
      ("tailroom", toString b.tailroom)]

-- Headroom, data and tailroom make up the storage.
theorem length_parts {b : Buffer} (h : b.InBounds) :
    b.offset + b.length + b.tailroom = b.storage.length := by
  unfold InBounds at h
  unfold tailroom
  omega

theorem length_data {b : Buffer} (h : b.InBounds) : b.data.length = b.length := by
  unfold InBounds at h
  simp only [data, List.length_take, List.length_drop]
  omega

end Buffer

end TapPort
