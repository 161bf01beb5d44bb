import TapPort.Device

namespace TapPort

-- A device and the descriptors opened on it; none where one was closed.
structure Handles (δ κ : Type) where
  dev : δ
  handles : List (Option κ)

namespace Handles

variable {δ κ χ ρ : Type} [Device δ κ] [Controlled δ χ ρ]

def ofDevice (dev : δ) : Handles δ κ := ⟨dev, []⟩

inductive Call where
  | read (room : Nat)
  | write (frame : Bytes)
  | poll
  | address
  | setAddress (mac : Mac)
  | index
  | drop
deriving DecidableEq, Repr

inductive Op (χ : Type) where
  | features
  | openQueue (name : Option String) (queues : UInt16)
  | call (h : Nat) (call : Call)
  | control (c : χ)

inductive Reply (κ ρ : Type) where
  | features (result : Except Error TunFlags)
  -- The number of the new descriptor, the descriptor, and the name of its interface.
  | opened (h : Nat) (handle : κ) (name : String)
  | refused (cause : Error)
  | failed (cause : IoError)
  -- The count that was reported, and the whole buffer.
  | read (count : Nat) (buffer : Bytes)
  | count (n : Nat)
  | flag (b : Bool)
  | address (mac : Mac)
  | done
  | noQueue
  | answer (a : ρ)

def reply {α : Type} (f : α → Reply κ ρ) : Except IoError α → Reply κ ρ
  | .ok a => f a
  | .error e => .failed e

-- A call on a descriptor that is open, except closing it.
def onHandle (handle : κ) (call : Call) (dev : δ) : Reply κ ρ × δ :=
  match call with
  | .read room =>
    let (r, dev) := Device.read handle room dev
    (reply (fun n => .read n (Bytes.overlay 0 r.bytes (Bytes.zeros room))) r.result, dev)
  | .write frame =>
    let (r, dev) := Device.write handle frame dev
    (reply .count r, dev)
  | .poll =>
    let (r, dev) := Device.pollWritable handle dev
    (reply .flag r, dev)
  | .address =>
    let (r, dev) := Device.address handle dev
    (reply .address r, dev)
  | .setAddress mac =>
    let (r, dev) := Device.setAddress handle mac dev
    (reply (fun _ => .done) r, dev)
  | .index =>
    let (r, dev) := Device.index handle dev
    (reply (fun i => .count i.toNat) r, dev)
  | .drop => (.flag true, Device.close handle dev)

def step (s : Handles δ κ) : Op χ → Reply κ ρ × Handles δ κ
  | .features =>
    let (r, dev) := Device.features s.dev
    (.features r, { s with dev })
  | .openQueue name queues =>
    match Device.openQueue name queues s.dev with
    | (.error e, dev) => (.refused e, { s with dev })
    | (.ok (handle, name), dev) =>
      (.opened s.handles.length handle name, ⟨dev, s.handles ++ [some handle]⟩)
  | .call h call =>
    match s.handles[h]?, call with
    | none, _ => (.noQueue, s)
    | some none, .drop => (.flag false, s)
    | some none, _ => (.noQueue, s)
    | some (some handle), call =>
      let (reply, dev) := onHandle handle call s.dev
      (reply, ⟨dev, if call = .drop then s.handles.set h none else s.handles⟩)
  | .control c =>
    let (a, dev) := Controlled.control c s.dev
    (.answer a, { s with dev })

end Handles

end TapPort
