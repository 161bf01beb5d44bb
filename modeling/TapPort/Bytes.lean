
namespace TapPort

abbrev Bytes := List UInt8

def hexDigit (n : Nat) : Char := Nat.digitChar (n % 16)

namespace Bytes

def zeros (n : Nat) : Bytes := List.replicate n 0

-- Writes `src` over `dst` from position `pos` on; what would fall outside `dst` is cut off.
def overlay (pos : Nat) (src dst : Bytes) : Bytes :=
  dst.take pos ++ src.take (dst.length - pos) ++ dst.drop (pos + src.length)

def hex (bs : Bytes) : String :=
  String.ofList (bs.flatMap fun b => [hexDigit (b.toNat / 16), hexDigit b.toNat])

theorem length_zeros (n : Nat) : (zeros n).length = n := List.length_replicate

theorem length_overlay (pos : Nat) (src dst : Bytes) :
    (overlay pos src dst).length = dst.length := by
  simp only [overlay, List.length_append, List.length_take, List.length_drop]
  omega

-- An overlay at the front that fits is the source followed by the rest of what was there.
theorem overlay_zero {src dst : Bytes} (h : src.length ≤ dst.length) :
    overlay 0 src dst = src ++ dst.drop src.length := by
  simp [overlay, List.take_of_length_le h]

end Bytes

end TapPort
