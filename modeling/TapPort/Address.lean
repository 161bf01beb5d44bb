import TapPort.Device

namespace TapPort

namespace Address

-- The address of the kernel's side.
def host (id : UInt16) (numaNode : UInt8) : Mac := ⟨0x56, 0x61, 0x70, 0x2d, id.toUInt8, numaNode⟩

-- The address of the program's side.
def app (id : UInt16) (numaNode : UInt8) : Mac := ⟨0x66, 0x6e, 0x65, 0x74, id.toUInt8, numaNode⟩

variable {κ δ : Type} [Device δ κ]

-- Gives the interface of a queue the kernel's address; the program's address is the answer. The
-- address that was there is read before, so that an interface without one is found out.
def assign (handle : κ) (id : UInt16) (numaNode : UInt8) (dev : δ) : Except Error Mac × δ :=
  match Device.address handle dev with
  | (.error e, dev) => (.error (.deviceUnavailable (.readAddress e)), dev)
  | (.ok _, dev) =>
    match Device.setAddress handle (host id numaNode) dev with
    | (.error e, dev) => (.error (.deviceUnavailable (.setAddress e)), dev)
    | (.ok (), dev) => (.ok (app id numaNode), dev)

-- Gives an interface its address and looks up its index.
def identify (handle : κ) (iface : String) (id : UInt16) (numaNode : UInt8) (dev : δ) :
    Except Error (Mac × UInt32) × δ :=
  match assign handle id numaNode dev with
  | (.error e, dev) => (.error e, dev)
  | (.ok mac, dev) =>
    match Device.index handle dev with
    | (.error e, dev) => (.error (.deviceUnavailable (.findIndex iface e)), dev)
    | (.ok index, dev) => (.ok (mac, index), dev)

end Address

end TapPort
