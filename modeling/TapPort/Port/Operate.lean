import TapPort.Port.Queues

namespace TapPort

namespace Port

variable {κ δ : Type} [Device δ κ]

-- The room of pools made for a port: headroom and a frame.
def poolRoom : Nat := headroom + Frame.receiveRoom

structure BringUp (κ δ : Type) where
  -- The pools of the queues in order, unless something failed.
  result : Except Error (List PoolId)
  port : Port κ
  dev : δ
  pools : Pools

def poolName (p : Port κ) (q : Nat) : String := p.name ++ "_rx" ++ toString q

-- Sets up both sides of queues, each with a pool of its own.
def equip (size : Nat) : List Nat → List PoolId → Port κ → δ → Pools → BringUp κ δ
  | [], made, p, dev, pools => ⟨.ok made, p, dev, pools⟩
  | q :: rest, made, p, dev, pools =>
    let pool := pools.length
    let pools := pools ++ [Pool.ofCapacity (p.poolName q) size poolRoom]
    match p.setUpRx q pool pools dev with
    | (.error e, dev) => ⟨.error e, p, dev, pools⟩
    | (.ok p, dev) =>
      match p.setUpTx q dev with
      | (.error e, dev) => ⟨.error e, p, dev, pools⟩
      | (.ok p, dev) => equip size rest (made ++ [pool]) p dev pools

-- Configures a port, sets up all of its queues with pools of `size` buffers, and starts it. What
-- was done before something failed stays.
def bringUp (p : Port κ) (size : Nat) (dev : δ) (pools : Pools) : BringUp κ δ :=
  let count := UInt16.ofNat p.queueCount
  match p.configure ⟨count, count⟩ with
  | .error e => ⟨.error e, p, dev, pools⟩
  | .ok p =>
    match equip size (List.range p.queueCount) [] p dev pools with
    | ⟨.error e, p, dev, pools⟩ => ⟨.error e, p, dev, pools⟩
    | ⟨.ok made, p, dev, pools⟩ =>
      match p.start with
      | .error e => ⟨.error e, p, dev, pools⟩
      | .ok p => ⟨.ok made, p, dev, pools⟩

-- Sets up both sides of queues, all with one pool.
def share (pool : PoolId) (pools : Pools) : List Nat → Port κ → δ → Except Error (Port κ) × δ
  | [], p, dev => (.ok p, dev)
  | q :: rest, p, dev =>
    match p.setUpRx q pool pools dev with
    | (.error e, dev) => (.error e, dev)
    | (.ok p, dev) =>
      match p.setUpTx q dev with
      | (.error e, dev) => (.error e, dev)
      | (.ok p, dev) => share pool pools rest p dev

def startShared (p : Port κ) (pool : PoolId) (pools : Pools) (dev : δ) :
    Except Error (Port κ) × δ :=
  match p.configure ⟨0, 0⟩ with
  | .error e => (.error e, dev)
  | .ok p =>
    match share pool pools (List.range p.queueCount) p dev with
    | (.error e, dev) => (.error e, dev)
    | (.ok p, dev) => (p.start, dev)

-- A round of polling under way: the packets received so far, and what is left behind.
structure Round (κ δ : Type) where
  received : Nat
  port : Port κ
  dev : δ
  pools : Pools

-- Receives one burst on queue `q`, sends it back on the same queue if that is asked for, and gives
-- up what remains.
def pollQueue (burst : Nat) (reflect : Bool) (r : Round κ δ) (q : Nat) : Round κ δ :=
  let rx := r.port.rx q [] burst r.dev r.pools
  let o := if reflect && 0 < rx.count then rx.port.tx q rx.buffers rx.dev rx.pools else rx
  ⟨r.received + rx.count, o.port, o.dev, Buffer.releaseAll o.buffers o.pools⟩

def poll (p : Port κ) (burst : Nat) (reflect : Bool) (dev : δ) (pools : Pools) : Round κ δ :=
  (List.range p.queueCount).foldl (pollQueue burst reflect) ⟨0, p, dev, pools⟩

end Port

end TapPort
