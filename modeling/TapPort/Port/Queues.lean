import TapPort.Port.Lifecycle

namespace TapPort

namespace Port

variable {κ δ : Type} [Device δ κ]

-- Refuses what no port that is still in use would refuse, and queues that the port does not have.
def checkSetup (p : Port κ) (q : Nat) : Except Error Unit := do
  p.expect [.created, .configured, .started, .stopped]
  if p.queueCount ≤ q then .error (.config (.queueOutOfRange q p.queueCount))

-- Opens queue `q` of the port's interface, if it is not open. Where no other queue is open either,
-- the interface is a new one, which gets its address and index as the first one did.
def ensureOpen (p : Port κ) (q : Nat) (dev : δ) : Except Error (Port κ) × δ :=
  if p.queueIsOpen q then (.ok p, dev)
  else
    match Device.openQueue (some p.iface) (UInt16.ofNat p.queueCount) dev with
    | (.error e, dev) => (.error e, dev)
    | (.ok (handle, iface), dev) =>
      let install (p : Port κ) : Port κ :=
        { p with queues := p.queues.modify q ({ · with slot := .opened handle }) }
      if p.openCount = 0 then
        match Address.identify handle iface p.id p.numaNode dev with
        | (.error e, dev) => (.error e, Device.close handle dev)
        | (.ok (mac, ifIndex), dev) => (.ok (install { p with mac, ifIndex }), dev)
      else (.ok (install p), dev)

-- Sets up the receiving side of a queue. The buffers of the pool have to hold a frame. Both sides
-- share one descriptor, so that either of them opens it, and either closes it when it is released.
def setUpRx (p : Port κ) (q : Nat) (pool : PoolId) (pools : Pools) (dev : δ) :
    Except Error (Port κ) × δ :=
  match p.checkSetup q with
  | .error e => (.error e, dev)
  | .ok () =>
    let room := (pools[pool]?.map Pool.usableRoom).getD 0
    if room < Frame.receiveRoom then
      (.error (.outOfResources (.roomTooSmall (pools.nameOf pool) room)), dev)
    else
      match p.ensureOpen q dev with
      | (.error e, dev) => (.error e, dev)
      | (.ok p, dev) => (.ok { p with queues := p.queues.modify q (·.setPool pool) }, dev)

def setUpTx (p : Port κ) (q : Nat) (dev : δ) : Except Error (Port κ) × δ :=
  match p.checkSetup q with
  | .error e => (.error e, dev)
  | .ok () => p.ensureOpen q dev

def closeQueue (p : Port κ) (q : Nat) (dev : δ) : Port κ × δ :=
  match p.queues[q]? with
  | none => (p, dev)
  | some pair =>
    let (pair, dev) := pair.close dev
    ({ p with queues := p.queues.set q pair }, dev)

def releaseRx (p : Port κ) (q : Nat) (dev : δ) : Port κ × δ :=
  { p with queues := p.queues.modify q QueuePair.clearPool }.closeQueue q dev

def releaseTx (p : Port κ) (q : Nat) (dev : δ) : Port κ × δ := p.closeQueue q dev

structure Outcome (κ δ : Type) where
  count : Nat
  port : Port κ
  buffers : List Buffer
  dev : δ
  pools : Pools

-- A burst on queue `q`; a queue that the port does not have moves nothing.
def burst (p : Port κ) (q : Nat) (buffers : List Buffer) (dev : δ) (pools : Pools)
    (run : QueuePair κ → List Buffer → δ → Pools → Burst.Outcome κ δ) : Outcome κ δ :=
  match p.queues[q]? with
  | none => ⟨0, p, buffers, dev, pools⟩
  | some pair =>
    let o := run pair buffers dev pools
    ⟨o.count, { p with queues := p.queues.set q o.queue }, o.buffers, o.dev, o.pools⟩

def rx (p : Port κ) (q : Nat) (buffers : List Buffer) (n : Nat) (dev : δ) (pools : Pools) :
    Outcome κ δ :=
  p.burst q buffers dev pools fun pair buffers dev pools => Burst.rx pair buffers n dev pools

def tx (p : Port κ) (q : Nat) (buffers : List Buffer) (dev : δ) (pools : Pools) : Outcome κ δ :=
  p.burst q buffers dev pools Burst.tx

end Port

end TapPort
