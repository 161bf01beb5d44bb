import TapPort.Device.Outcomes
import TapPort.Io
import TapPort.Tun.IfReq
import TapPort.Tun.Path

namespace TapPort

structure Polled where
  ready : Nat
  events : UInt16
deriving DecidableEq, Repr

namespace Polled

def writable : UInt16 := 0x04
def error : UInt16 := 0x08
def hangup : UInt16 := 0x10
def invalid : UInt16 := 0x20

def ordinary : Polled := ⟨1, writable⟩

end Polled

-- Outcomes of each kind of call, in the order in which they are used up by all descriptors; `none`
-- is the ordinary one, and so is what follows a list that has run out.
structure KernelOutcomes where
  opens : List (Option Errno)
  features : List (Option (Except Errno UInt32))
  setInterface : List (Option (Except Errno Bytes))
  address : List (Option (Except Errno Bytes))
  setAddress : List (Option Errno)
  status : List (Option (Except Errno UInt32))
  setStatus : List (Option Errno)
  polls : List (Option (Except Errno Polled))
  reads : List (Option (Except Errno Bytes))
  writes : List (Option (Except Errno Nat))
  indices : List (Option (Except Errno UInt32))

namespace KernelOutcomes

def empty : KernelOutcomes := ⟨[], [], [], [], [], [], [], [], [], [], []⟩

instance : Inhabited KernelOutcomes := ⟨empty⟩

def append (s t : KernelOutcomes) : KernelOutcomes where
  opens := s.opens ++ t.opens
  features := s.features ++ t.features
  setInterface := s.setInterface ++ t.setInterface
  address := s.address ++ t.address
  setAddress := s.setAddress ++ t.setAddress
  status := s.status ++ t.status
  setStatus := s.setStatus ++ t.setStatus
  polls := s.polls ++ t.polls
  reads := s.reads ++ t.reads
  writes := s.writes ++ t.writes
  indices := s.indices ++ t.indices

end KernelOutcomes

-- A call, as it is put on record. A request is recorded as it was handed over.
inductive KernelCall where
  -- The id is missing where opening failed.
  | openControl (id : Option Nat)
  | getFeatures (id : Nat)
  | setInterface (id : Nat) (request : IfReq)
  | getAddress (id : Nat) (request : IfReq)
  | setAddress (id : Nat) (request : IfReq)
  | getStatus (id : Nat)
  | setStatus (id : Nat) (status : UInt32)
  | poll (id : Nat) (events : UInt16) (timeout : Nat)
  | read (id room : Nat)
  | write (id : Nat) (frame : Bytes)
  | index (name : Bytes)
  | close (id : Nat)
deriving DecidableEq, Repr

structure Kernel where
  outcomes : KernelOutcomes
  -- The descriptors given out so far; the next one gets the id after this number.
  opened : Nat
  -- The calls, the latest first.
  calls : List KernelCall
  -- The root of the files beside the control device.
  files : FileNode

namespace Kernel

def ofOutcomes (outcomes : KernelOutcomes) : Kernel := ⟨outcomes, 0, [], .emptyDirectory⟩

instance : Inhabited Kernel := ⟨{ ofOutcomes .empty with files := .ordinary }⟩

-- The flags on offer where nothing else was decided.
def ordinaryFeatures : UInt32 := 0x7133

-- The status of a descriptor that is open for reading and writing.
def readWrite : UInt32 := 2

-- The status bit of a descriptor on which no call waits.
def nonblocking : UInt32 := 2048

-- The index of an interface where nothing else was decided.
def ordinaryIndex : UInt32 := 1

-- The name of an interface that was asked for without one.
def ordinaryName : String := "tap0"

def record (k : Kernel) (call : KernelCall) : Kernel := { k with calls := call :: k.calls }

-- Opens the control device, once for each outcome that only says that the call was interrupted and
-- once more.
def openRetrying : List (Option Errno) → Kernel → Except Errno Nat × Kernel
  | [], k =>
    let id := k.opened + 1
    (.ok id, { k with
      outcomes := { k.outcomes with opens := [] }
      opened := id
      calls := .openControl (some id) :: k.calls })
  | none :: rest, k =>
    let id := k.opened + 1
    (.ok id, { k with
      outcomes := { k.outcomes with opens := rest }
      opened := id
      calls := .openControl (some id) :: k.calls })
  | some e :: rest, k =>
    let k := k.record (.openControl none)
    if e = Errno.interrupted then openRetrying rest k
    else (.error e, { k with outcomes := { k.outcomes with opens := rest } })

def openControl (k : Kernel) : Except Errno Nat × Kernel := openRetrying k.outcomes.opens k

def getFeatures (id : Nat) (k : Kernel) : Except Errno UInt32 × Kernel :=
  let k := k.record (.getFeatures id)
  let (outcome, rest) := nextOutcome k.outcomes.features
  let k := { k with outcomes := { k.outcomes with features := rest } }
  (outcome.getD (.ok ordinaryFeatures), k)

-- Sets up an interface. The answer is the request with the name that the interface has.
def setInterface (id : Nat) (request : IfReq) (k : Kernel) : Except Errno IfReq × Kernel :=
  let k := k.record (.setInterface id request)
  let (outcome, rest) := nextOutcome k.outcomes.setInterface
  let k := { k with outcomes := { k.outcomes with setInterface := rest } }
  match outcome with
  | some (.error e) => (.error e, k)
  | some (.ok name) => (.ok { request with name := IfReq.nameField name }, k)
  | none =>
    if request.nameBytes.isEmpty then
      (.ok { request with name := IfReq.nameField (Text.utf8 ordinaryName) }, k)
    else (.ok request, k)

def getAddress (id : Nat) (request : IfReq) (k : Kernel) : Except Errno IfReq × Kernel :=
  let k := k.record (.getAddress id request)
  let (outcome, rest) := nextOutcome k.outcomes.address
  let k := { k with outcomes := { k.outcomes with address := rest } }
  match outcome with
  | some (.error e) => (.error e, k)
  | some (.ok address) => (.ok (request.setAddress (Mac.ofBytes address)), k)
  | none => (.ok (request.setAddress Mac.zero), k)

def failing : Option Errno → Except Errno Unit
  | some e => .error e
  | none => .ok ()

def setAddress (id : Nat) (request : IfReq) (k : Kernel) : Except Errno Unit × Kernel :=
  let k := k.record (.setAddress id request)
  let (outcome, rest) := nextOutcome k.outcomes.setAddress
  let k := { k with outcomes := { k.outcomes with setAddress := rest } }
  (failing outcome, k)

def getStatus (id : Nat) (k : Kernel) : Except Errno UInt32 × Kernel :=
  let k := k.record (.getStatus id)
  let (outcome, rest) := nextOutcome k.outcomes.status
  let k := { k with outcomes := { k.outcomes with status := rest } }
  (outcome.getD (.ok readWrite), k)

def setStatus (id : Nat) (status : UInt32) (k : Kernel) : Except Errno Unit × Kernel :=
  let k := k.record (.setStatus id status)
  let (outcome, rest) := nextOutcome k.outcomes.setStatus
  let k := { k with outcomes := { k.outcomes with setStatus := rest } }
  (failing outcome, k)

def poll (id : Nat) (events : UInt16) (timeout : Nat) (k : Kernel) :
    Except Errno Polled × Kernel :=
  let k := k.record (.poll id events timeout)
  let (outcome, rest) := nextOutcome k.outcomes.polls
  let k := { k with outcomes := { k.outcomes with polls := rest } }
  (outcome.getD (.ok .ordinary), k)

def read (id room : Nat) (k : Kernel) : Except Errno Bytes × Kernel :=
  let k := k.record (.read id room)
  let (outcome, rest) := nextOutcome k.outcomes.reads
  let k := { k with outcomes := { k.outcomes with reads := rest } }
  match outcome with
  | some (.ok frame) => (.ok (frame.take room), k)
  | some (.error e) => (.error e, k)
  | none => (.error .again, k)

def write (id : Nat) (frame : Bytes) (k : Kernel) : Except Errno Nat × Kernel :=
  let k := k.record (.write id frame)
  let (outcome, rest) := nextOutcome k.outcomes.writes
  let k := { k with outcomes := { k.outcomes with writes := rest } }
  (outcome.getD (.ok frame.length), k)

-- The index of the interface of a name. There is no index zero.
def index (name : Bytes) (k : Kernel) : Except Errno UInt32 × Kernel :=
  let k := k.record (.index name)
  let (outcome, rest) := nextOutcome k.outcomes.indices
  let k := { k with outcomes := { k.outcomes with indices := rest } }
  match outcome.getD (.ok ordinaryIndex) with
  | .ok 0 => (.error 0, k)
  | result => (result, k)

def close (id : Nat) (k : Kernel) : Kernel := k.record (.close id)

def takeCalls (k : Kernel) : List KernelCall × Kernel := (k.calls.reverse, { k with calls := [] })

end Kernel

end TapPort
