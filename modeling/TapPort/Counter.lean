import TapPort.Text.Record

namespace TapPort

-- A counter. Adding and subtracting go round.
structure Counter where
  value : UInt64
deriving DecidableEq, Repr, Inhabited

namespace Counter

def zero : Counter := ⟨0⟩

def add (c : Counter) (n : UInt64) : Counter := ⟨c.value + n⟩

def sub (c : Counter) (n : UInt64) : Counter := ⟨c.value - n⟩

def text (c : Counter) : String :=
  Text.record "StatU64" [("value", toString c.value.toNat)]

end Counter

-- A named block of counters, each with the name of its field, in the order of declaration.
structure CounterBlock where
  name : String
  entries : List (String × Counter)
deriving DecidableEq, Repr

namespace CounterBlock

def ofFields (name : String) (fields : List String) : CounterBlock :=
  ⟨name, fields.map fun f => (f, .zero)⟩

def fields (b : CounterBlock) : List String := b.entries.map (·.1)

def numFields (b : CounterBlock) : Nat := b.entries.length

-- Changes the counter of a field, if the block has it.
def update (b : CounterBlock) (field : String) (f : Counter → Counter) : CounterBlock :=
  { b with entries := b.entries.map fun e => if e.1 = field then (e.1, f e.2) else e }

def reset (b : CounterBlock) : CounterBlock :=
  { b with entries := b.entries.map fun e => (e.1, .zero) }

def isZero (b : CounterBlock) : Bool := b.entries.all fun e => e.2.value == 0

def text (b : CounterBlock) : String :=
  Text.record b.name (b.entries.map fun e => (e.1, e.2.text))

def snapshotText (b : CounterBlock) : String :=
  Text.record (b.name ++ "Snap") (b.entries.map fun e => (e.1, toString e.2.value.toNat))

end CounterBlock

structure QueueCounters where
  ipackets : UInt64
  opackets : UInt64
  ibytes : UInt64
  obytes : UInt64
  errors : UInt64
deriving DecidableEq, Repr, Inhabited

namespace QueueCounters

def zero : QueueCounters := ⟨0, 0, 0, 0, 0⟩

def received (c : QueueCounters) (packets bytes : Nat) : QueueCounters :=
  { c with
    ipackets := c.ipackets + UInt64.ofNat packets
    ibytes := c.ibytes + UInt64.ofNat bytes }

-- Adds what a transmit burst sent, and how many buffers it had to leave.
def transmitted (c : QueueCounters) (packets bytes left : Nat) : QueueCounters :=
  { c with
    opackets := c.opackets + UInt64.ofNat packets
    obytes := c.obytes + UInt64.ofNat bytes
    errors := c.errors + UInt64.ofNat left }

-- The counters by name, in the order in which a queue lists them.
def toBlock (c : QueueCounters) : CounterBlock :=
  ⟨"QueueStats", [("ipackets", ⟨c.ipackets⟩), ("opackets", ⟨c.opackets⟩), ("ibytes", ⟨c.ibytes⟩),
    ("obytes", ⟨c.obytes⟩), ("errors", ⟨c.errors⟩)]⟩

end QueueCounters

end TapPort
