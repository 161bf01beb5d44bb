import TapPort.Bytes

namespace TapPort

-- A hardware address: six octets, the first one sent first.
structure Mac where
  a : UInt8
  b : UInt8
  c : UInt8
  d : UInt8
  e : UInt8
  f : UInt8
deriving DecidableEq, Repr

namespace Mac

def zero : Mac := ⟨0, 0, 0, 0, 0, 0⟩

instance : Inhabited Mac := ⟨zero⟩

def toBytes (m : Mac) : Bytes := [m.a, m.b, m.c, m.d, m.e, m.f]

-- The first six octets; missing ones are zero.
def ofBytes (bs : Bytes) : Mac :=
  ⟨bs.getD 0 0, bs.getD 1 0, bs.getD 2 0, bs.getD 3 0, bs.getD 4 0, bs.getD 5 0⟩

-- Bit 1 of the first octet marks an address that no manufacturer assigned.
def isLocal (m : Mac) : Bool := m.a &&& 2 != 0

-- Bit 0 of the first octet marks a group address.
def isUnicast (m : Mac) : Bool := m.a &&& 1 == 0

def text (m : Mac) : String :=
  String.intercalate ":" (m.toBytes.map fun b => Bytes.hex [b])

def inRecord (m : Mac) : String := "MacAddr(" ++ m.text ++ ")"

theorem ofBytes_toBytes (m : Mac) : ofBytes m.toBytes = m := rfl

theorem toBytes_ofBytes {bs : Bytes} (h : bs.length = 6) : (ofBytes bs).toBytes = bs := by
  match bs, h with
  | [_, _, _, _, _, _], _ => rfl

end Mac

end TapPort
