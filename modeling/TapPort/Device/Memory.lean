import TapPort.Device
import TapPort.Text.Utf8

namespace TapPort

-- The frames that wait for a queue, the first to be read first.
structure Ring where
  queue : Nat
  frames : List Bytes
deriving DecidableEq, Repr

-- The kernel's side of one interface. The interface exists while a queue of it is open: it gets a
-- new index and an address with its first queue, and loses both with its last. The frames in a ring
-- are lost if its queue is closed before they are read.
structure MemoryTap where
  features : TunFlags
  failOpen : Bool
  -- The name that is given in place of the one asked for.
  rename : Option String
  iface : Option String
  flags : Option TunFlags
  -- The queues opened so far; the next one gets the id after this number. There is only so much
  -- room for this count, for the next index and for the frames dropped, as `fits` says.
  opens : Nat
  rings : List Ring
  -- Which ring a frame goes to, counted round.
  steer : Bytes → Nat
  -- The frames that nobody could read any more.
  dropped : Nat
  -- The frames written, the latest first.
  sent : List Bytes
  writable : Bool
  -- How many more frames may be written, if that is limited.
  budget : Option Nat
  failWrite : Bool
  failAddress : Bool
  address : Mac
  -- The index of the interface, or zero without one.
  index : Nat
  nextIndex : Nat

namespace MemoryTap

def firstIndex : Nat := 7

-- A device that offers these flags and has no interface yet.
def ofFeatures (features : TunFlags) : MemoryTap where
  features := features
  failOpen := false
  rename := none
  iface := none
  flags := none
  opens := 0
  rings := []
  steer := fun _ => 0
  dropped := 0
  sent := []
  writable := true
  budget := none
  failWrite := false
  failAddress := false
  address := Mac.zero
  index := 0
  nextIndex := firstIndex

def defaultFeatures : TunFlags :=
  (((((TunFlags.tun.union .tap).union .noPacketInfo).union .oneQueue).union .multiQueue).union
    .vnetHeader)

def default : MemoryTap := ofFeatures defaultFeatures

instance : Inhabited MemoryTap := ⟨default⟩

-- The address that an interface has at first, after its index.
def kernelAddress (index : Nat) : Mac :=
  ⟨0xa2, 0x08, UInt8.ofNat (index / 0x1000000), UInt8.ofNat (index / 0x10000),
    UInt8.ofNat (index / 0x100), UInt8.ofNat index⟩

def pending (d : MemoryTap) : Nat := d.rings.foldr (fun r n => r.frames.length + n) 0

def pendingOn (d : MemoryTap) (slot : Nat) : Nat :=
  (d.rings[slot]?.map (·.frames.length)).getD 0

-- Puts copies of a frame in the ring of a slot, counted round; without a ring they are dropped.
def pushTo (d : MemoryTap) (slot : Nat) (frame : Bytes) (count : Nat) : MemoryTap :=
  if d.rings.isEmpty then { d with dropped := d.dropped + count }
  else
    { d with
      rings := d.rings.modify (slot % d.rings.length) fun r =>
        { r with frames := r.frames ++ List.replicate count frame } }

def push (d : MemoryTap) (frame : Bytes) (count : Nat) : MemoryTap :=
  d.pushTo (d.steer frame) frame count

def createInterface (d : MemoryTap) : MemoryTap :=
  if d.rings.isEmpty then
    { d with
      index := d.nextIndex
      nextIndex := d.nextIndex + 1
      address := kernelAddress d.nextIndex }
  else d

def attach (d : MemoryTap) (flags : TunFlags) (name : String) : MemoryTap :=
  let d := d.createInterface
  { d with
    opens := d.opens + 1
    rings := d.rings ++ [⟨d.opens + 1, []⟩]
    flags := some flags
    iface := some name }

-- The name of the interface, if this one is asked for.
def nameFor (d : MemoryTap) (requested : Option String) : String :=
  match d.rename with
  | some name => name
  | none => requested.getD "tap0"

-- Why a queue cannot be opened, or the flags that are agreed on.
def agree (d : MemoryTap) (requested : Option String) (queues : UInt16) :
    Except DeviceError TunFlags :=
  if d.failOpen then .error .openRefused
  else match requested.filter fun name => nameLimit ≤ (Text.utf8 name).length with
    | some name => .error (.nameTooLong name)
    | none =>
      match TunFlags.negotiate d.features queues with
      | .error e => .error (.refused e)
      | .ok flags =>
        if !d.rings.isEmpty && !flags.contains .multiQueue then .error .busy
        else .ok flags

def openQueue (requested : Option String) (queues : UInt16) (d : MemoryTap) :
    Except Error (Nat × String) × MemoryTap :=
  match d.agree requested queues with
  | .error e => (.error (.deviceUnavailable e), d)
  | .ok flags =>
    let name := d.nameFor requested
    let d := d.attach flags name
    (.ok (d.opens, name), d)

-- Takes an element out of a list; the last one takes its place.
def swapRemove {α : Type} (l : List α) (i : Nat) : List α :=
  match l.getLast? with
  | some last => (l.set i last).dropLast
  | none => []

-- Closes a queue. Its frames are lost, and so is the interface if it was the last one.
def detach (id : Nat) (d : MemoryTap) : MemoryTap :=
  match d.rings.findIdx? (·.queue == id) with
  | none => d
  | some i =>
    let lost := (d.rings[i]?.map (·.frames.length)).getD 0
    let d := { d with rings := swapRemove d.rings i, dropped := d.dropped + lost }
    if d.rings.isEmpty then { d with index := 0, address := Mac.zero } else d

-- Reads the first frame of a queue, as much of it as there is room for.
def read (id room : Nat) (d : MemoryTap) : Read × MemoryTap :=
  match d.rings.findIdx? (·.queue == id) with
  | none => (⟨[], .error (.kind .wouldBlock)⟩, d)
  | some i =>
    match (d.rings[i]?.map Ring.frames).getD [] with
    | [] => (⟨[], .error (.kind .wouldBlock)⟩, d)
    | frame :: rest =>
      let bytes := frame.take room
      (⟨bytes, .ok bytes.length⟩, { d with rings := d.rings.modify i ({ · with frames := rest }) })

def write (frame : Bytes) (d : MemoryTap) : Except IoError Nat × MemoryTap :=
  if d.failWrite then (.error (.custom .other "mock write failure"), d)
  else match d.budget with
    | some 0 => (.error (.kind .wouldBlock), d)
    | some (n + 1) => (.ok frame.length, { d with budget := some n, sent := frame :: d.sent })
    | none => (.ok frame.length, { d with sent := frame :: d.sent })

def guardAddress {α : Type} (d : MemoryTap) (result : α × MemoryTap) :
    Except IoError α × MemoryTap :=
  if d.failAddress then (.error (.kind .permissionDenied), d) else (.ok result.1, result.2)

-- Whether there is room for the counts, which are never set back: 32 bits for the queues opened and
-- for the next index, and 64 for the frames dropped. A count that goes beyond stops the program, or
-- goes round where nothing checks for that; either way it is followed no further.
def fits (d : MemoryTap) : Bool :=
  d.opens < UInt32.size && d.nextIndex < UInt32.size && d.dropped < UInt64.size

instance : Device MemoryTap Nat where
  features d := (.ok d.features, d)
  openQueue := openQueue
  read := read
  write _ := write
  pollWritable _ d := (.ok (d.writable && d.budget != some 0), d)
  address _ d := d.guardAddress (d.address, d)
  setAddress _ mac d := d.guardAddress ((), { d with address := mac })
  index _ d := (.ok (UInt32.ofNat d.index), d)
  close := detach
  halted d := !d.fits

inductive Control where
  | failOpen (on : Bool)
  | failWrite (on : Bool)
  | failAddress (on : Bool)
  | writable (on : Bool)
  | rename (name : String)
  | budget (frames : Option Nat)
  | push (frame : Bytes) (count : Nat)
  | pushTo (slot : Nat) (frame : Bytes)
  | steer (slot : Bytes → Nat)
  -- Hands over the frames written, and forgets them.
  | takeSent
  | pendingOn (slot : Nat)
  | features

inductive Answer where
  | done
  | frames (frames : List Bytes)
  | count (n : Nat)
  | flags (flags : TunFlags)

def control : Control → MemoryTap → Answer × MemoryTap
  | .failOpen on, d => (.done, { d with failOpen := on })
  | .failWrite on, d => (.done, { d with failWrite := on })
  | .failAddress on, d => (.done, { d with failAddress := on })
  | .writable on, d => (.done, { d with writable := on })
  | .rename name, d => (.done, { d with rename := some name })
  | .budget frames, d => (.done, { d with budget := frames })
  | .push frame count, d => (.done, d.push frame count)
  | .pushTo slot frame, d => (.done, d.pushTo slot frame 1)
  | .steer slot, d => (.done, { d with steer := slot })
  | .takeSent, d => (.frames d.sent.reverse, { d with sent := [] })
  | .pendingOn slot, d => (.count (d.pendingOn slot), d)
  | .features, d => (.flags d.features, d)

instance : Controlled MemoryTap Control Answer where
  control := control

-- By the first octet of a frame; an empty frame goes to the first ring.
def byFirstOctet (frame : Bytes) : Nat := (frame.headD 0).toNat

def byLength (frame : Bytes) : Nat := frame.length

theorem rings_attach (d : MemoryTap) (flags : TunFlags) (name : String) :
    (d.attach flags name).rings = d.rings ++ [⟨d.opens + 1, []⟩] := by
  simp only [attach, createInterface]
  split <;> rfl

theorem mem_swapRemove {α : Type} {l : List α} {i : Nat} {x y : α} (hi : l[i]? = some y)
    (hx : x ∈ l) (hxy : x ≠ y) : x ∈ swapRemove l i := by
  obtain ⟨j, hj, rfl⟩ := List.getElem_of_mem hx
  have hji : j ≠ i := by
    rintro rfl
    simp [hj] at hi
    exact hxy hi
  have hil : i < l.length := (List.getElem?_eq_some_iff.1 hi).1
  have hne : l ≠ [] := List.ne_nil_of_mem hx
  rw [swapRemove, List.getLast?_eq_some_getLast hne]
  cases Nat.lt_or_ge j (l.length - 1)
  case inl h =>
    refine List.mem_iff_getElem.2 ⟨j, by simpa using h, ?_⟩
    simp [Ne.symm hji]
  case inr h =>
    -- The last element takes the place of the one that goes.
    have hjl : j = l.length - 1 := by omega
    refine List.mem_iff_getElem.2 ⟨i, by simp; omega, ?_⟩
    simp [List.getLast_eq_getElem, hjl]

-- Frames of a queue that is still open survive the closing of another one.
theorem mem_rings_detach {d : MemoryTap} {id : Nat} {r : Ring} (hr : r ∈ d.rings)
    (hid : r.queue ≠ id) : r ∈ (d.detach id).rings := by
  unfold detach
  split
  case h_1 => exact hr
  case h_2 i hi =>
    obtain ⟨hl, hq, -⟩ := List.findIdx?_eq_some_iff_getElem.1 hi
    have hne : r ≠ d.rings[i] := by
      rintro rfl
      exact hid (beq_iff_eq.1 hq)
    have hm := mem_swapRemove (List.getElem?_eq_getElem hl) hr hne
    dsimp only
    split <;> exact hm

end MemoryTap

end TapPort
