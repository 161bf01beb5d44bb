import TapPort.Json.Parser
import TapPort.Json.Printer
import TapPort.Port.Basic

namespace TapPort

structure PortReport where
  info : PortInfo
  link : Link
  devInfo : DevInfo
  stats : PortStats
deriving DecidableEq, Repr

def Port.report {κ : Type} (p : Port κ) : PortReport := ⟨p.info, p.link, p.devInfo, p.stats⟩

namespace Json

def required? {α : Type} (read : Json → Option α) (field : Option Json) : Option α :=
  field.bind read

-- A field that keeps its default where it is missing.
def defaulting? {α : Type} (read : Json → Option α) (default : α) (field : Option Json) :
    Option α :=
  match field with
  | none => some default
  | some j => read j

def uint8? (j : Json) : Option UInt8 := (j.nat? UInt8.size).map UInt8.ofNat

def uint16? (j : Json) : Option UInt16 := (j.nat? UInt16.size).map UInt16.ofNat

def uint32? (j : Json) : Option UInt32 := (j.nat? UInt32.size).map UInt32.ofNat

def uint64? (j : Json) : Option UInt64 := (j.nat? UInt64.size).map UInt64.ofNat

def counts? (j : Json) : Option (List UInt64) := j.items?.bind (·.mapM uint64?)

def ofCounts (ns : List UInt64) : Json := arr (ns.map fun n => nat n.toNat)

end Json

namespace Mac

def toJson (m : Mac) : Json := .arr (m.toBytes.map fun b => .nat b.toNat)

def ofJson? (j : Json) : Option Mac := do
  let bytes ← (← j.items?).mapM Json.uint8?
  if bytes.length = Frame.addressLength then some (ofBytes bytes) else none

end Mac

namespace LinkState

def name : LinkState → String
  | down => "Down"
  | up => "Up"

def toJson (s : LinkState) : Json := .text s.name

def ofJson? (j : Json) : Option LinkState :=
  j.word?.bind fun word => [down, up].find? fun s => s.name == word

end LinkState

namespace Duplex

def name : Duplex → String
  | half => "Half"
  | full => "Full"

def toJson (d : Duplex) : Json := .text d.name

def ofJson? (j : Json) : Option Duplex :=
  j.word?.bind fun word => [half, full].find? fun d => d.name == word

end Duplex

namespace Phase

def toJson (p : Phase) : Json := .text p.name

def ofJson? (j : Json) : Option Phase :=
  j.word?.bind fun word => all.find? fun p => p.name == word

end Phase

namespace Link

def fieldNames : List String := ["speed", "duplex", "autoneg", "state"]

def toJson (l : Link) : Json :=
  .ofFields [("speed", .nat l.speed.toNat), ("duplex", l.duplex.toJson),
    ("autoneg", .bool l.autoneg), ("state", l.state.toJson)]

def ofJson? (j : Json) : Option Link := do
  match ← j.fields? fieldNames false with
  | [speed, duplex, autoneg, state] =>
    pure ⟨← Json.required? Json.uint32? speed, ← Json.required? Duplex.ofJson? duplex,
      ← Json.required? Json.bool? autoneg, ← Json.required? LinkState.ofJson? state⟩
  | _ => none

def inRecord (l : Link) : String :=
  Text.record "LinkStatus"
    [("speed", toString l.speed.toNat), ("duplex", l.duplex.name),
      ("autoneg", Text.truth l.autoneg), ("state", l.state.name)]

end Link

namespace PortArgs

def fieldNames : List String := ["iface", "speed", "queues", "numa_node"]

def toJson (a : PortArgs) : Json :=
  .ofFields [("iface", (a.iface.map Json.text).getD .null), ("speed", .nat a.speed.toNat),
    ("queues", .nat a.queues.toNat), ("numa_node", .nat a.numaNode.toNat)]

-- Arguments that are not given keep their defaults; others than these are refused.
def ofJson? (j : Json) : Option PortArgs := do
  match ← j.fields? fieldNames true with
  | [iface, speed, queues, numaNode] =>
    pure ⟨← Json.defaulting? (Json.optional? Json.text?) default.iface iface,
      ← Json.defaulting? Json.uint32? default.speed speed,
      ← Json.defaulting? Json.uint16? default.queues queues,
      ← Json.defaulting? Json.uint8? default.numaNode numaNode⟩
  | _ => none

end PortArgs

namespace DevConf

def fieldNames : List String := ["nb_rx_queues", "nb_tx_queues"]

def toJson (c : DevConf) : Json :=
  .ofFields [("nb_rx_queues", .nat c.rxQueues.toNat), ("nb_tx_queues", .nat c.txQueues.toNat)]

def ofJson? (j : Json) : Option DevConf := do
  match ← j.fields? fieldNames false with
  | [rx, tx] => pure ⟨← Json.required? Json.uint16? rx, ← Json.required? Json.uint16? tx⟩
  | _ => none

def inRecord (c : DevConf) : String :=
  Text.record "DevConf"
    [("nb_rx_queues", toString c.rxQueues.toNat), ("nb_tx_queues", toString c.txQueues.toNat)]

end DevConf

namespace DevInfo

def fieldNames : List String :=
  ["if_index", "max_mac_addrs", "max_rx_pktlen", "max_rx_queues", "max_tx_queues", "min_rx_bufsize"]

def values (d : DevInfo) : List Nat :=
  [d.ifIndex.toNat, d.maxAddresses.toNat, d.maxFrame.toNat, d.maxRxQueues.toNat,
    d.maxTxQueues.toNat, d.minBuffer.toNat]

def toJson (d : DevInfo) : Json := .ofFields (fieldNames.zip (d.values.map Json.nat))

def ofJson? (j : Json) : Option DevInfo := do
  match ← j.fields? fieldNames false with
  | [ifIndex, addresses, frame, rx, tx, buffer] =>
    pure ⟨← Json.required? Json.uint32? ifIndex, ← Json.required? Json.uint32? addresses,
      ← Json.required? Json.uint32? frame, ← Json.required? Json.uint16? rx,
      ← Json.required? Json.uint16? tx, ← Json.required? Json.uint32? buffer⟩
  | _ => none

def inRecord (d : DevInfo) : String :=
  Text.record "DevInfo" (fieldNames.zip (d.values.map toString))

end DevInfo

namespace PortInfo

def fieldNames : List String :=
  ["name", "iface", "port_id", "numa_node", "nb_queues", "mac", "if_index", "state", "link",
    "open_queues"]

def toJson (i : PortInfo) : Json :=
  .ofFields (fieldNames.zip
    [.text i.name, .text i.iface, .nat i.portId.toNat, .nat i.numaNode.toNat, .nat i.queues.toNat,
      i.mac.toJson, .nat i.ifIndex.toNat, i.phase.toJson, i.link.toJson, .nat i.openQueues.toNat])

def ofJson? (j : Json) : Option PortInfo := do
  match ← j.fields? fieldNames false with
  | [name, iface, portId, numaNode, queues, mac, ifIndex, state, link, openQueues] =>
    pure {
      name := ← Json.required? Json.text? name
      iface := ← Json.required? Json.text? iface
      portId := ← Json.required? Json.uint16? portId
      numaNode := ← Json.required? Json.uint8? numaNode
      queues := ← Json.required? Json.uint16? queues
      mac := ← Json.required? Mac.ofJson? mac
      ifIndex := ← Json.required? Json.uint32? ifIndex
      phase := ← Json.required? Phase.ofJson? state
      link := ← Json.required? Link.ofJson? link
      openQueues := ← Json.required? Json.uint16? openQueues }
  | _ => none

def inRecord (i : PortInfo) : String :=
  Text.record "PortInfo" (fieldNames.zip
    [Text.quoted i.name, Text.quoted i.iface, toString i.portId.toNat, toString i.numaNode.toNat,
      toString i.queues.toNat, i.mac.inRecord, toString i.ifIndex.toNat, i.phase.name,
      i.link.inRecord, toString i.openQueues.toNat])

end PortInfo

namespace PortStats

def totalNames : List String := ["ipackets", "opackets", "ibytes", "obytes", "oerrors"]

def queueNames : List String := ["q_ipackets", "q_opackets", "q_ibytes", "q_obytes", "q_errors"]

def totals (s : PortStats) : List UInt64 := [s.ipackets, s.opackets, s.ibytes, s.obytes, s.oerrors]

def queueLists (s : PortStats) : List (List UInt64) :=
  [s.queueIpackets, s.queueOpackets, s.queueIbytes, s.queueObytes, s.queueErrors]

def toJson (s : PortStats) : Json :=
  .ofFields (totalNames.zip (s.totals.map fun n => Json.nat n.toNat)
    ++ queueNames.zip (s.queueLists.map Json.ofCounts))

def ofJson? (j : Json) : Option PortStats := do
  match ← j.fields? (totalNames ++ queueNames) false with
  | [ipackets, opackets, ibytes, obytes, oerrors, qIpackets, qOpackets, qIbytes, qObytes,
      qErrors] =>
    pure {
      ipackets := ← Json.required? Json.uint64? ipackets
      opackets := ← Json.required? Json.uint64? opackets
      ibytes := ← Json.required? Json.uint64? ibytes
      obytes := ← Json.required? Json.uint64? obytes
      oerrors := ← Json.required? Json.uint64? oerrors
      queueIpackets := ← Json.required? Json.counts? qIpackets
      queueOpackets := ← Json.required? Json.counts? qOpackets
      queueIbytes := ← Json.required? Json.counts? qIbytes
      queueObytes := ← Json.required? Json.counts? qObytes
      queueErrors := ← Json.required? Json.counts? qErrors }
  | _ => none

def inRecord (s : PortStats) : String :=
  let counts (ns : List UInt64) := Text.bracketed (ns.map fun n => toString n.toNat)
  Text.record "PortStats"
    (totalNames.zip (s.totals.map fun n => toString n.toNat)
      ++ queueNames.zip (s.queueLists.map counts))

end PortStats

namespace PortReport

def fieldNames : List String := ["info", "link", "dev_info", "stats"]

def toJson (r : PortReport) : Json :=
  .ofFields [("info", r.info.toJson), ("link", r.link.toJson), ("dev_info", r.devInfo.toJson),
    ("stats", r.stats.toJson)]

def ofJson? (j : Json) : Option PortReport := do
  match ← j.fields? fieldNames false with
  | [info, link, devInfo, stats] =>
    pure ⟨← Json.required? PortInfo.ofJson? info, ← Json.required? Link.ofJson? link,
      ← Json.required? DevInfo.ofJson? devInfo, ← Json.required? PortStats.ofJson? stats⟩
  | _ => none

def inRecord (r : PortReport) : String :=
  Text.record "PortReport"
    [("info", r.info.inRecord), ("link", r.link.inRecord), ("dev_info", r.devInfo.inRecord),
      ("stats", r.stats.inRecord)]

end PortReport

end TapPort
