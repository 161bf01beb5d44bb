import TapPort.Error
import TapPort.Mac

namespace TapPort

structure Read where
  -- The octets that were written to the front of the buffer.
  bytes : Bytes
  -- How many octets are reported, or why there is no frame.
  result : Except IoError Nat
deriving Repr

-- A device in a state of type `δ`, whose open queues are known by handles of type `κ`. Each call
-- may fail, and moves the device to a new state.
class Device (δ : Type) (κ : outParam Type) where
  features : δ → Except Error TunFlags × δ
  -- Opens a queue of the interface asked for, which is to have so many queues in all; also gives
  -- the name that the interface really has.
  openQueue : Option String → UInt16 → δ → Except Error (κ × String) × δ
  -- Reads a frame into a buffer of so many octets.
  read : κ → Nat → δ → Read × δ
  -- Writes a frame; gives the number of octets taken.
  write : κ → Bytes → δ → Except IoError Nat × δ
  pollWritable : κ → δ → Except IoError Bool × δ
  address : κ → δ → Except IoError Mac × δ
  setAddress : κ → Mac → δ → Except IoError Unit × δ
  index : κ → δ → Except IoError UInt32 × δ
  close : κ → δ → δ
  -- Whether a count has gone beyond the room that there is for it.
  halted : δ → Bool := fun _ => false

-- A device that can be told how to behave: a control of type `χ` moves it to a new state and gives
-- an answer of type `ρ`.
class Controlled (δ : Type) (χ ρ : outParam Type) where
  control : χ → δ → ρ × δ

end TapPort
