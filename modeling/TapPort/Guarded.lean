
namespace TapPort

-- A value behind a lock. A holder of the lock that fails leaves the value as it is at that moment,
-- and nobody after it is kept from the value.
structure Guarded (α : Type) where
  value : α
  -- A holder failed while it held the lock.
  poisoned : Bool
deriving DecidableEq, Repr

namespace Guarded

variable {α : Type}

def ofValue (a : α) : Guarded α := ⟨a, false⟩

inductive Op (α : Type) where
  | renew (a : α)
  | update (f : α → α)
  -- Changes the value under the lock, and fails before it is given back.
  | updateAndFail (f : α → α)
  -- Takes the value out for good, which leaves this one in its place.
  | take (rest : α)

-- Carries out a step; the reply is the value, as it is afterwards or as it was taken out.
def step (g : Guarded α) : Op α → α × Guarded α
  | .renew a => (a, ofValue a)
  | .update f => (f g.value, { g with value := f g.value })
  | .updateAndFail f => (f g.value, ⟨f g.value, true⟩)
  | .take rest => (g.value, ofValue rest)

end Guarded

end TapPort
