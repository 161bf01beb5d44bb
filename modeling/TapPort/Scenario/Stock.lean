import TapPort.Buffer
import TapPort.Frame

namespace TapPort

structure Stock where
  pools : Pools
  -- The pools that the scenario itself made.
  numbered : List PoolId
  lists : List (String × List Buffer)

namespace Stock

def empty : Stock := ⟨[], [], []⟩

instance : Inhabited Stock := ⟨empty⟩

-- The buffers of a list; a list that was not named yet is empty.
def list (s : Stock) (name : String) : List Buffer := (s.lists.lookup name).getD []

def setList (s : Stock) (name : String) (buffers : List Buffer) : Stock :=
  { s with lists := (name, buffers) :: s.lists.filter (·.1 != name) }

def levels (s : Stock) : List Nat := s.numbered.map s.pools.available

def addPool (s : Stock) (name : String) (capacity room : Nat) : Nat × Stock :=
  (s.numbered.length,
    { s with
      pools := s.pools ++ [Pool.ofCapacity name capacity room]
      numbered := s.numbered ++ [s.pools.length] })

-- Fills buffers with copies of a frame until the pool has none left; the latest comes first.
def fill (pool : PoolId) (frame : Bytes) : Nat → Pools → List Buffer → List Buffer × Pools
  | 0, pools, made => (made, pools)
  | n + 1, pools, made =>
    match Buffer.ofBytes pool frame pools with
    | (some b, pools) => fill pool frame n pools (b :: made)
    | (none, pools) => (made, pools)

inductive Op where
  | pool (name : String) (capacity room : Nat)
  -- A pool whose buffers just hold a frame.
  | framePool (name : String) (capacity : Nat)
  | make (pool : Nat) (list : String) (frame : Bytes) (count : Nat)
  -- Gives up buffers from the front of a list, or all of them.
  | drop (list : String) (count : Option Nat)
  | contents (list : String)
deriving DecidableEq, Repr

inductive Reply where
  | number (n : Nat)
  | contents (buffers : List Buffer)
  | unknownPool
deriving DecidableEq, Repr

-- Carries out a step. A list that was not named yet is named by it, except by making nothing.
def step (s : Stock) : Op → Reply × Stock
  | .pool name capacity room =>
    let (n, s) := s.addPool name capacity room
    (.number n, s)
  | .framePool name capacity =>
    let (n, s) := s.addPool name capacity (headroom + Frame.receiveRoom)
    (.number n, s)
  | .make pool list frame count =>
    match s.numbered[pool]? with
    | none => (.unknownPool, s)
    | some pool =>
      match fill pool frame count s.pools [] with
      | ([], pools) => (.number 0, { s with pools })
      | (b :: made, pools) =>
        (.number (made.length + 1),
          { s with pools }.setList list (s.list list ++ (b :: made).reverse))
  | .drop list count =>
    let buffers := s.list list
    let gone := match count with
      | some n => buffers.take n
      | none => buffers
    (.number gone.length,
      { s with pools := Buffer.releaseAll gone s.pools }.setList list (buffers.drop gone.length))
  | .contents list => (.contents (s.list list), s.setList list (s.list list))

end Stock

end TapPort
