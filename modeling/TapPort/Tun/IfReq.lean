import TapPort.Mac
import TapPort.Text.Utf8
import TapPort.Tun.Flags

namespace TapPort

-- The block of 40 octets with which a caller and the kernel talk about a network interface. Flags,
-- an index and an address are all written from the front of the payload on, each over the others.
structure IfReq where
  -- The name field, of `IfReq.nameSize` octets.
  name : Bytes
  -- The payload, of `IfReq.payloadSize` octets.
  payload : Bytes
deriving DecidableEq, Repr

namespace IfReq

-- Octets of the name field. A name has at least one octet less.
def nameSize : Nat := 16

def payloadSize : Nat := 24

-- Octets of an address structure: its family and 14 more.
def addressSize : Nat := 16

def etherFamily : UInt16 := 1

def empty : IfReq := ⟨Bytes.zeros nameSize, Bytes.zeros payloadSize⟩

instance : Inhabited IfReq := ⟨empty⟩

structure Sized (r : IfReq) : Prop where
  name : r.name.length = nameSize
  payload : r.payload.length = payloadSize

-- Whether a name fits the name field with a zero after it and none inside.
def fits (name : Bytes) : Bool := name.length < nameSize && !name.contains 0

-- Octets for a whole name field, filled up with zeros.
def nameField (name : Bytes) : Bytes := Bytes.overlay 0 name (Bytes.zeros nameSize)

def setName? (r : IfReq) (name : String) : Option IfReq :=
  let bs := Text.utf8 name
  if fits bs then some { r with name := nameField bs } else none

def ofName? (name : String) : Option IfReq := empty.setName? name

-- The octets of the name, up to the first zero.
def nameBytes (r : IfReq) : Bytes := r.name.takeWhile (· != 0)

def nameText (r : IfReq) : String := Text.decode r.nameBytes

-- The low octet first.
def littleEndian (n : UInt16) : Bytes := [n.toUInt8, (n >>> 8).toUInt8]

def setFlags (r : IfReq) (flags : TunFlags) : IfReq :=
  { r with payload := Bytes.overlay 0 (littleEndian flags.bits) r.payload }

-- Writes a whole address structure: the family, the address, and zeros after it.
def setAddress (r : IfReq) (mac : Mac) : IfReq :=
  let field := Bytes.overlay 2 mac.toBytes
    (Bytes.overlay 0 (littleEndian etherFamily) (Bytes.zeros addressSize))
  { r with payload := Bytes.overlay 0 field r.payload }

def octet (r : IfReq) (i : Nat) : UInt8 := r.payload.getD i 0

-- The named flags among the first two octets.
def flags (r : IfReq) : TunFlags :=
  TunFlags.truncate ⟨(r.octet 0).toUInt16 ||| ((r.octet 1).toUInt16 <<< 8)⟩

-- The first four octets as a number with a sign.
def index (r : IfReq) : Int32 :=
  ((r.octet 0).toUInt32 ||| ((r.octet 1).toUInt32 <<< 8) ||| ((r.octet 2).toUInt32 <<< 16)
    ||| ((r.octet 3).toUInt32 <<< 24)).toInt32

-- The six octets after the family.
def address (r : IfReq) : Mac := Mac.ofBytes (r.payload.drop 2)

-- All octets, as they are handed over.
def toBytes (r : IfReq) : Bytes := r.name ++ r.payload

inductive Edit where
  -- Starts again with a request for a name, if that fits.
  | restart (name : String)
  | name (name : String)
  | flags (flags : TunFlags)
  | address (mac : Mac)
deriving DecidableEq, Repr

-- Makes a change; a name that does not fit changes nothing.
def edit (r : IfReq) : Edit → IfReq
  | .restart name => (ofName? name).getD r
  | .name name => (r.setName? name).getD r
  | .flags flags => r.setFlags flags
  | .address mac => r.setAddress mac

-- Whether a change is made: only a name can be refused.
def accepts (r : IfReq) : Edit → Bool
  | .restart name => (ofName? name).isSome
  | .name name => (r.setName? name).isSome
  | .flags _ | .address _ => true

theorem sized_empty : empty.Sized := ⟨rfl, rfl⟩

theorem length_nameField (bs : Bytes) : (nameField bs).length = nameSize :=
  Bytes.length_overlay ..

theorem setName?_eq_none_iff {r : IfReq} {name : String} :
    r.setName? name = none ↔ fits (Text.utf8 name) = false := by
  simp [setName?]

theorem name_setFlags (r : IfReq) (flags : TunFlags) : (r.setFlags flags).name = r.name := rfl

theorem name_setAddress (r : IfReq) (mac : Mac) : (r.setAddress mac).name = r.name := rfl

theorem Sized.edit {r : IfReq} (h : r.Sized) (e : Edit) : (r.edit e).Sized := by
  have named {r : IfReq} (h : r.Sized) (name : String) : ((r.setName? name).getD r).Sized := by
    simp only [setName?]
    split
    case isTrue => exact ⟨length_nameField _, h.payload⟩
    case isFalse => exact h
  cases e
  case restart name =>
    simp only [IfReq.edit, ofName?, setName?]
    split
    case isTrue => exact ⟨length_nameField _, sized_empty.payload⟩
    case isFalse => exact h
  case name name => exact named h name
  case flags | address => exact ⟨h.name, (Bytes.length_overlay ..).trans h.payload⟩

-- A name that was set is what is read.
theorem nameBytes_setName? {r s : IfReq} {name : String} (h : r.setName? name = some s) :
    s.nameBytes = Text.utf8 name := by
  simp only [setName?] at h
  split at h
  case isFalse => cases h
  case isTrue hf =>
    obtain rfl := Option.some.inj h
    simp only [fits, Bool.and_eq_true, Bool.not_eq_true', decide_eq_true_eq] at hf
    have hl : (Text.utf8 name).length ≤ (Bytes.zeros nameSize).length := by
      rw [Bytes.length_zeros]
      exact Nat.le_of_lt hf.1
    have hz : ∀ b ∈ Text.utf8 name, (b != 0) = true := by
      intro b hb
      have hc := hf.2
      simp only [bne_iff_ne, ne_eq]
      rintro rfl
      simp [hb] at hc
    have hd : ((Bytes.zeros nameSize).drop (Text.utf8 name).length).takeWhile (· != 0) = [] := by
      simp [Bytes.zeros, List.drop_replicate]
    rw [nameBytes, nameField, Bytes.overlay_zero hl, List.takeWhile_append_of_pos hz, hd,
      List.append_nil]

end IfReq

end TapPort
