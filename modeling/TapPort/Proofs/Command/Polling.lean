import Mathlib.Data.Set.Card
import Mathlib.Logic.Function.Iterate
import Mathlib.Order.Interval.Finset.Nat
import TapPort.Command.Run
import TapPort.Proofs.Port.Polling

namespace TapPort

namespace Port

variable {κ δ : Type} [Device δ κ]

-- One more round of polling, in which the packets received are counted on.
def Round.again (burst : Nat) (reflect : Bool) (r : Round κ δ) : Round κ δ :=
  let next := r.port.poll burst reflect r.dev r.pools
  { next with received := r.received + next.received }

section Rounds

variable (burst : Nat) (reflect : Bool)

variable (n : Nat)

end Rounds

end Port

namespace Command

variable {clock : Clock} {burst : Nat} {reflect : Bool} {deadline n left now seconds : Nat}

end Command

end TapPort
