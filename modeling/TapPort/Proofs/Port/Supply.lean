import TapPort.Proofs.Port.Polling
import TapPort.Proofs.Port.Setup

namespace TapPort

variable {κ δ : Type} [Device δ κ]

namespace Port

section Pools

variable {p : Port κ} {size n : Nat}

end Pools

section Views

variable {p p' : Port κ} {dev dev' : δ} {q : Nat}

end Views

end Port

end TapPort
