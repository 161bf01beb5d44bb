import TapPort.Device
import TapPort.Device.Outcomes

namespace TapPort

inductive OpenOutcome where
  | fail (cause : Error)
  | named (name : String)
deriving DecidableEq, Repr

inductive ReadOutcome where
  -- A frame, cut off where the buffer ends.
  | frame (bytes : Bytes)
  -- Octets, with a count that may have nothing to do with them.
  | claim (bytes : Bytes) (count : Nat)
  | fail (cause : IoError)
deriving DecidableEq, Repr

-- Outcomes in the order in which they are used up; `none` is the ordinary one.
structure Script where
  opens : List (Option OpenOutcome)
  reads : List (Option ReadOutcome)
  writes : List (Option (Except IoError Nat))
  polls : List (Option (Except IoError Bool))
  addresses : List (Option (Except IoError Mac))
  setAddresses : List (Option IoError)
  indices : List (Option (Except IoError UInt32))

namespace Script

def empty : Script := ⟨[], [], [], [], [], [], []⟩

instance : Inhabited Script := ⟨empty⟩

def append (s t : Script) : Script where
  opens := s.opens ++ t.opens
  reads := s.reads ++ t.reads
  writes := s.writes ++ t.writes
  polls := s.polls ++ t.polls
  addresses := s.addresses ++ t.addresses
  setAddresses := s.setAddresses ++ t.setAddresses
  indices := s.indices ++ t.indices

end Script

inductive ScriptedCall where
  -- The id is missing where opening failed.
  | openQueue (requested : Option String) (queues : Nat) (id : Option Nat)
  | read (id room : Nat)
  | write (id : Nat) (frame : Bytes)
  | poll (id : Nat)
  | address (id : Nat)
  | setAddress (id : Nat) (mac : Mac)
  | index (id : Nat)
  | close (id : Nat)
deriving DecidableEq, Repr

structure ScriptedTap where
  script : Script
  -- The descriptors given out so far; the next one gets the id after this number.
  opened : Nat
  -- The calls, the latest first.
  log : List ScriptedCall

namespace ScriptedTap

def ofScript (script : Script) : ScriptedTap := ⟨script, 0, []⟩

instance : Inhabited ScriptedTap := ⟨ofScript .empty⟩

def record (d : ScriptedTap) (call : ScriptedCall) : ScriptedTap := { d with log := call :: d.log }

def takeLog (d : ScriptedTap) : List ScriptedCall × ScriptedTap :=
  (d.log.reverse, { d with log := [] })

-- A descriptor that was not opened by a call.
def fresh (d : ScriptedTap) : Nat × ScriptedTap := (d.opened + 1, { d with opened := d.opened + 1 })

def openQueue (requested : Option String) (queues : UInt16) (d : ScriptedTap) :
    Except Error (Nat × String) × ScriptedTap :=
  let (outcome, rest) := nextOutcome d.script.opens
  let d := { d with script := { d.script with opens := rest } }
  match outcome with
  | some (.fail e) => (.error e, d.record (.openQueue requested queues.toNat none))
  | some (.named name) => succeed name d
  | none => succeed (requested.getD "tap0") d
where
  succeed (name : String) (d : ScriptedTap) : Except Error (Nat × String) × ScriptedTap :=
    let (id, d) := d.fresh
    (.ok (id, name), d.record (.openQueue requested queues.toNat (some id)))

def read (id room : Nat) (d : ScriptedTap) : Read × ScriptedTap :=
  let d := d.record (.read id room)
  let (outcome, rest) := nextOutcome d.script.reads
  let d := { d with script := { d.script with reads := rest } }
  match outcome with
  | some (.frame bytes) =>
    let bytes := bytes.take room
    (⟨bytes, .ok bytes.length⟩, d)
  | some (.claim bytes n) => (⟨bytes.take room, .ok n⟩, d)
  | some (.fail e) => (⟨[], .error e⟩, d)
  | none => (⟨[], .error (.kind .wouldBlock)⟩, d)

def write (id : Nat) (frame : Bytes) (d : ScriptedTap) : Except IoError Nat × ScriptedTap :=
  let d := d.record (.write id frame)
  let (outcome, rest) := nextOutcome d.script.writes
  (outcome.getD (.ok frame.length), { d with script := { d.script with writes := rest } })

def pollWritable (id : Nat) (d : ScriptedTap) : Except IoError Bool × ScriptedTap :=
  let d := d.record (.poll id)
  let (outcome, rest) := nextOutcome d.script.polls
  (outcome.getD (.ok true), { d with script := { d.script with polls := rest } })

def address (id : Nat) (d : ScriptedTap) : Except IoError Mac × ScriptedTap :=
  let d := d.record (.address id)
  let (outcome, rest) := nextOutcome d.script.addresses
  (outcome.getD (.ok Mac.zero), { d with script := { d.script with addresses := rest } })

def setAddress (id : Nat) (mac : Mac) (d : ScriptedTap) : Except IoError Unit × ScriptedTap :=
  let d := d.record (.setAddress id mac)
  let (outcome, rest) := nextOutcome d.script.setAddresses
  let d := { d with script := { d.script with setAddresses := rest } }
  match outcome with
  | some e => (.error e, d)
  | none => (.ok (), d)

def index (id : Nat) (d : ScriptedTap) : Except IoError UInt32 × ScriptedTap :=
  let d := d.record (.index id)
  let (outcome, rest) := nextOutcome d.script.indices
  (outcome.getD (.ok 1), { d with script := { d.script with indices := rest } })

instance : Device ScriptedTap Nat where
  features d := (.ok .all, d)
  openQueue := openQueue
  read := read
  write := write
  pollWritable := pollWritable
  address := address
  setAddress := setAddress
  index := index
  close id d := d.record (.close id)

instance : Controlled ScriptedTap Script Unit where
  control more d := ((), { d with script := d.script.append more })

end ScriptedTap

end TapPort
