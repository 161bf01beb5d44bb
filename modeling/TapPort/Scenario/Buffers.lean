import TapPort.Buffer

namespace TapPort

-- Numbered buffers, storages without a buffer, and their pools.
structure Buffers where
  pools : Pools
  -- The buffers by number; none where one was given up.
  slots : List (Option Buffer)
  -- The storages, the latest first.
  stack : List Bytes

namespace Buffers

def empty : Buffers := ⟨[], [], []⟩

instance : Inhabited Buffers := ⟨empty⟩

inductive Edit where
  | append (bytes : Bytes)
  | setLength (n : Nat)
  | poke (i : Nat) (v : UInt8)
  | pokeTail (i : Nat) (v : UInt8)
  | setPort (port : UInt16)
deriving DecidableEq, Repr

-- What a change gives: octets that do not fit are refused, and an octet outside is not there to be
-- written.
inductive Edited where
  | refused
  | outside
  | done (b : Buffer)

def edit (b : Buffer) : Edit → Edited
  | .append bytes =>
    match b.append? bytes with
    | some b => .done b
    | none => .refused
  | .setLength n => .done (b.setLength n)
  | .poke i v =>
    match b.poke? i v with
    | some b => .done b
    | none => .outside
  | .pokeTail i v =>
    match b.pokeTail? i v with
    | some b => .done b
    | none => .outside
  | .setPort port => .done (b.setPort port)

inductive Op where
  | pool (name : String) (capacity room : Nat)
  | alloc (pool : PoolId)
  | ofBytes (pool : PoolId) (bytes : Bytes)
  | edit (m : Nat) (edit : Edit)
  | free (m : Nat)
  | inspect (m : Nat)
  | get (pool : PoolId)
  -- Gives a pool a storage of so many copies of an octet, or the latest that was taken.
  | put (pool : PoolId) (made : Option (Nat × UInt8))
  | poolInfo (pool : PoolId)
deriving DecidableEq, Repr

inductive Reply where
  | number (n : Nat)
  -- The number of a buffer that was made, if one was.
  | slot (m : Option Nat)
  -- Whether something was there, or fitted.
  | flag (b : Bool)
  | done
  -- The buffer was given up before.
  | freed
  | buffer (b : Buffer)
  | storage (bytes : Option Bytes)
  | pool (p : Pool)
  | unknownPool

def add (s : Buffers) (b : Buffer) : Reply × Buffers :=
  (.slot (some s.slots.length), { s with slots := s.slots ++ [some b] })

def replyTo (b : Buffer) : Edit → Reply
  | .append _ => .flag true
  | .setLength _ => .number b.length
  | .poke .. | .pokeTail .. => .done
  | .setPort _ => .number b.port.toNat

-- Carries out a step; there is no result if an octet outside a buffer is written.
def step (s : Buffers) : Op → Option (Reply × Buffers)
  | .pool name capacity room =>
    some (.number s.pools.length,
      { s with pools := s.pools ++ [Pool.ofCapacity name capacity room] })
  | .alloc pool =>
    match Buffer.alloc pool s.pools with
    | (some b, pools) => some ({ s with pools }.add b)
    | (none, pools) => some (.slot none, { s with pools })
  | .ofBytes pool bytes =>
    match Buffer.ofBytes pool bytes s.pools with
    | (some b, pools) => some ({ s with pools }.add b)
    | (none, pools) => some (.slot none, { s with pools })
  | .edit m e =>
    match s.slots[m]?.join with
    | none => some (.freed, s)
    | some b =>
      match edit b e with
      | .outside => none
      | .refused => some (.flag false, s)
      | .done b => some (replyTo b e, { s with slots := s.slots.set m (some b) })
  | .free m =>
    match s.slots[m]?.join with
    | none => some (.flag false, s)
    | some b =>
      some (.flag true, { s with slots := s.slots.set m none, pools := b.release s.pools })
  | .inspect m =>
    match s.slots[m]?.join with
    | none => some (.freed, s)
    | some b => some (.buffer b, s)
  | .get pool =>
    match s.pools.take pool with
    | (none, pools) => some (.storage none, { s with pools })
    | (some storage, pools) =>
      some (.storage (some storage), { s with pools, stack := storage :: s.stack })
  | .put pool (some (n, v)) =>
    some (.done, { s with pools := s.pools.put pool (List.replicate n v) })
  | .put pool none =>
    match s.stack with
    | [] => some (.done, s)
    | storage :: stack => some (.done, { s with pools := s.pools.put pool storage, stack })
  | .poolInfo pool =>
    match s.pools[pool]? with
    | none => some (.unknownPool, s)
    | some p => some (.pool p, s)

end Buffers

end TapPort
