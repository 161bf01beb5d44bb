import TapPort.Command.Run

open TapPort

def main (words : List String) : IO UInt32 := do
  let dev : TunDevice := .ofKernel TunDevice.controlPath default
  let (output, _) := Command.perform ⟨1, Nat.one_pos⟩ dev words
  IO.print output.stdout
  IO.eprint output.stderr
  pure (UInt32.ofNat output.code)
