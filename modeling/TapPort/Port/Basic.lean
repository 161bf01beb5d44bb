import TapPort.Address
import TapPort.Args
import TapPort.Burst
import TapPort.Port.Phase
import TapPort.Stats

namespace TapPort

-- A port over a device whose queues are known by handles of type `κ`.
structure Port (κ : Type) where
  name : String
  -- The interface, by the name that it really got.
  iface : String
  id : UInt16
  numaNode : UInt8
  phase : Phase
  link : Link
  -- The address of the program's side. This one and the index are those that the port found when
  -- it last opened a queue while none of its own was open.
  mac : Mac
  ifIndex : UInt32
  queues : List (QueuePair κ)
deriving DecidableEq, Repr

structure PortInfo where
  name : String
  iface : String
  portId : UInt16
  numaNode : UInt8
  queues : UInt16
  mac : Mac
  ifIndex : UInt32
  phase : Phase
  link : Link
  openQueues : UInt16
deriving DecidableEq, Repr

structure DevInfo where
  ifIndex : UInt32
  maxAddresses : UInt32
  maxFrame : UInt32
  maxRxQueues : UInt16
  maxTxQueues : UInt16
  minBuffer : UInt32
deriving DecidableEq, Repr

structure DevConf where
  rxQueues : UInt16
  txQueues : UInt16
deriving DecidableEq, Repr

namespace Port

variable {κ δ : Type} [Device δ κ]

-- Makes a port. Its first queue is opened, and the interface gets an address; whatever fails after
-- the queue was opened closes it again.
def create (name iface : String) (id : UInt16) (args : PortArgs) (dev : δ) :
    Except Error (Port κ) × δ :=
  match args.validate with
  | .error e => (.error e, dev)
  | .ok () =>
    match Device.openQueue (some iface) args.queues dev with
    | (.error e, dev) => (.error e, dev)
    | (.ok (handle, iface), dev) =>
      match Address.identify handle iface id args.numaNode dev with
      | (.error e, dev) => (.error e, Device.close handle dev)
      | (.ok (mac, ifIndex), dev) =>
        let queues := (List.range args.queues.toNat).map fun i => QueuePair.ofIndex i id
        (.ok {
          name := name
          iface := iface
          id := id
          numaNode := args.numaNode
          phase := .created
          link := Link.ofSpeed args.speed
          mac := mac
          ifIndex := ifIndex
          queues := queues.modify 0 ({ · with slot := .opened handle }) }, dev)

def queueCount (p : Port κ) : Nat := p.queues.length

def queueIsOpen (p : Port κ) (i : Nat) : Bool := (p.queues[i]?.map QueuePair.isOpen).getD false

def openCount (p : Port κ) : Nat := p.queues.countP QueuePair.isOpen

def queueCounters? (p : Port κ) (i : Nat) : Option QueueCounters :=
  p.queues[i]?.map QueuePair.counters

def info (p : Port κ) : PortInfo where
  name := p.name
  iface := p.iface
  portId := p.id
  numaNode := p.numaNode
  queues := UInt16.ofNat p.queueCount
  mac := p.mac
  ifIndex := p.ifIndex
  phase := p.phase
  link := p.link
  openQueues := UInt16.ofNat p.openCount

def devInfo (p : Port κ) : DevInfo where
  ifIndex := p.ifIndex
  maxAddresses := 1
  maxFrame := UInt32.ofNat Frame.taggedLimit
  maxRxQueues := UInt16.ofNat p.queueCount
  maxTxQueues := UInt16.ofNat p.queueCount
  minBuffer := 0

def stats (p : Port κ) : PortStats := PortStats.ofCounters (p.queues.map QueuePair.counters)

def resetStats (p : Port κ) : Port κ := { p with queues := p.queues.map QueuePair.resetCounters }

def inRecord (p : Port κ) : String :=
  Text.record "Port"
    [("name", Text.quoted p.name), ("iface", Text.quoted p.iface),
      ("port_id", toString p.id.toNat), ("nb_queues", toString p.queueCount),
      ("state", p.phase.name)]

end Port

end TapPort
