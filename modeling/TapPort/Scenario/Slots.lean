import TapPort.Device.Scripted
import TapPort.Queue

namespace TapPort

-- A slot, the descriptors taken out of it, and the device they belong to.
structure SlotHolder where
  dev : ScriptedTap
  slot : Slot Nat
  -- In the order in which they were taken.
  taken : List Nat

namespace SlotHolder

def empty : SlotHolder := ⟨default, .unset, []⟩

instance : Inhabited SlotHolder := ⟨empty⟩

inductive Op where
  | install
  | unset
  | take
  | dropTaken
  | get
deriving DecidableEq, Repr

inductive Reply where
  | done
  | handle (id : Option Nat)
  | count (n : Nat)
deriving DecidableEq, Repr

-- Carries out a step. What leaves the slot is closed, unless it is taken.
def step (s : SlotHolder) : Op → Reply × SlotHolder
  | .install =>
    let (id, dev) := s.dev.fresh
    (.done, { s with dev := s.slot.close dev, slot := .opened id })
  | .unset => (.done, { s with dev := s.slot.close s.dev, slot := .unset })
  | .take =>
    (.handle s.slot.get?, { s with slot := .unset, taken := s.taken ++ s.slot.get?.toList })
  | .dropTaken =>
    (.count s.taken.length,
      { s with dev := s.taken.foldl (fun dev id => Device.close id dev) s.dev, taken := [] })
  | .get => (.handle s.slot.get?, s)

end SlotHolder

end TapPort
