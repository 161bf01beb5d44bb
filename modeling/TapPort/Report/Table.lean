import TapPort.Report.Encoding
import TapPort.Text.Columns

namespace TapPort

namespace Table

def ruleLength : Nat := 70

def rule (c : Char) : String := String.ofList (List.replicate ruleLength c)

def row (cells : List String) : String := String.intercalate "\t" cells

-- Lines in columns, each with a line end.
def render (lines : List String) : String := Text.align (String.join (lines.map (· ++ "\n")))

end Table

def PortInfo.table (i : PortInfo) : String :=
  Table.render
    ["Port " ++ i.name,
      Table.rule '=',
      Table.row ["INTERFACE", i.iface],
      Table.row ["PORT ID", toString i.portId.toNat],
      Table.row ["NUMA NODE", toString i.numaNode.toNat],
      Table.row ["IF INDEX", toString i.ifIndex.toNat],
      Table.row ["MAC", i.mac.text],
      Table.row ["STATE", i.phase.text],
      Table.row ["LINK", i.link.text],
      Table.row ["QUEUES",
        toString i.queues.toNat ++ " (" ++ toString i.openQueues.toNat ++ " open)"]]

def DevInfo.table (d : DevInfo) : String :=
  Table.render
    ["Device Info",
      Table.rule '-',
      Table.row ["MAX MAC ADDRS", toString d.maxAddresses.toNat],
      Table.row ["MAX RX PKTLEN", toString d.maxFrame.toNat],
      Table.row ["MAX RX QUEUES", toString d.maxRxQueues.toNat],
      Table.row ["MAX TX QUEUES", toString d.maxTxQueues.toNat],
      Table.row ["MIN RX BUFSIZE", toString d.minBuffer.toNat]]

namespace PortStats

-- The row of queue `i`, if all lists reach it.
def queueRow? (s : PortStats) (i : Nat) : Option String := do
  let counts ← [s.queueIpackets, s.queueIbytes, s.queueOpackets, s.queueObytes, s.queueErrors].mapM
    fun counts => counts[i]?
  pure (Table.row (toString i :: counts.map fun n => toString n.toNat))

-- The statistics with a row for each queue that received packets are kept apart for. They cannot be
-- shown if another list is shorter.
def table? (s : PortStats) : Option String := do
  let rows ← (List.range s.queueIpackets.length).mapM s.queueRow?
  let totals := [s.ipackets, s.ibytes, s.opackets, s.obytes, s.oerrors]
  pure (Table.render
    (["Statistics", Table.rule '-',
        Table.row ["QUEUE", "IPACKETS", "IBYTES", "OPACKETS", "OBYTES", "ERRORS"]]
      ++ rows ++ [Table.row ("TOTAL" :: totals.map fun n => toString n.toNat)]))

end PortStats

end TapPort
