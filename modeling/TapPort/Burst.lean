import TapPort.Buffer
import TapPort.Queue

namespace TapPort

namespace Burst

variable {κ δ : Type} [Device δ κ]

def limit : Nat := 65535

structure Receiving (δ : Type) where
  -- The packets so far, the latest first.
  buffers : List Buffer
  -- The octets that the reads reported.
  bytes : Nat
  dev : δ
  pools : Pools

-- Receives up to so many packets. A buffer is at hand before anything is read, and goes back where
-- it came from if the read gives nothing, which also ends the burst.
def receive (handle : κ) (pool : PoolId) (portId : UInt16) : Nat → Receiving δ → Receiving δ
  | 0, r => r
  | n + 1, ⟨buffers, bytes, dev, pools⟩ =>
    match Buffer.alloc pool pools with
    | (none, pools) => ⟨buffers, bytes, dev, pools⟩
    | (some b, pools) =>
      match Device.read handle b.tailroom dev with
      | (⟨octets, .ok (len + 1)⟩, dev) =>
        let b := ((b.fillTail octets).setLength (len + 1)).setPort portId
        receive handle pool portId n ⟨b :: buffers, bytes + (len + 1), dev, pools⟩
      | (⟨octets, _⟩, dev) => ⟨buffers, bytes, dev, (b.fillTail octets).release pools⟩

structure Sending (δ : Type) where
  count : Nat
  bytes : Nat
  dev : δ

-- Sends packets in order, up to the first that cannot be written now or is not taken.
def send (handle : κ) : List Buffer → Sending δ → Sending δ
  | [], s => s
  | b :: rest, s =>
    match Device.pollWritable handle s.dev with
    | (.ok true, dev) =>
      match Device.write handle b.data dev with
      | (.ok (_ + 1), dev) => send handle rest ⟨s.count + 1, s.bytes + b.length, dev⟩
      | (_, dev) => { s with dev }
    | (_, dev) => { s with dev }

structure Outcome (κ δ : Type) where
  count : Nat
  queue : QueuePair κ
  buffers : List Buffer
  dev : δ
  pools : Pools

-- Receives up to `n` packets and adds them to the caller's buffers. Without a pool or a descriptor
-- nothing is received.
def rx (q : QueuePair κ) (buffers : List Buffer) (n : Nat) (dev : δ) (pools : Pools) :
    Outcome κ δ :=
  match q.pool, q.slot.get? with
  | some pool, some handle =>
    let r := receive handle pool q.portId n ⟨[], 0, dev, pools⟩
    { count := r.buffers.length
      queue := { q with counters := q.counters.received r.buffers.length r.bytes }
      buffers := buffers ++ r.buffers.reverse
      dev := r.dev
      pools := r.pools }
  | _, _ => ⟨0, q, buffers, dev, pools⟩

-- Sends the caller's buffers from the front on. Those that were taken go back to their pools; the
-- others stay with the caller, and count as errors as far as the burst's limit reaches.
def tx (q : QueuePair κ) (buffers : List Buffer) (dev : δ) (pools : Pools) : Outcome κ δ :=
  match buffers with
  | [] => ⟨0, q, [], dev, pools⟩
  | _ :: _ =>
    let tried := buffers.take limit
    let s := match q.slot.get? with
      | some handle => send handle tried ⟨0, 0, dev⟩
      | none => ⟨0, 0, dev⟩
    { count := s.count
      queue := { q with
        counters := q.counters.transmitted s.count s.bytes (tried.length - s.count) }
      buffers := buffers.drop s.count
      dev := s.dev
      pools := Buffer.releaseAll (buffers.take s.count) pools }

end Burst

end TapPort
