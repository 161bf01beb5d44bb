import TapPort.Proofs.Pool.Scrubbing

namespace TapPort

namespace Checked

def sub? (m n : Nat) : Option Nat := if n ≤ m then some (m - n) else none

-- The octets from one place up to another.
def slice? (octets : Bytes) (lower upper : Nat) : Option Bytes :=
  if lower ≤ upper ∧ upper ≤ octets.length then some ((octets.drop lower).take (upper - lower))
  else none

-- Copies octets to a slice that must have the same length.
def copy? (slice octets : Bytes) : Option Bytes :=
  if slice.length = octets.length then some octets else none

-- The octets with a slice that was written to put back to where it was taken.
def splice (octets : Bytes) (lower : Nat) (slice : Bytes) : Bytes :=
  octets.take lower ++ slice ++ octets.drop (lower + slice.length)

-- Copies octets to the front of others.
def overwrite? (octets bytes : Bytes) : Option Bytes := do
  let front ← slice? octets 0 bytes.length
  let front ← copy? front bytes
  return splice octets 0 front

theorem sub?_eq {m n : Nat} (h : n ≤ m) : sub? m n = some (m - n) := if_pos h

theorem slice?_eq {octets : Bytes} {lower upper : Nat} (hl : lower ≤ upper)
    (hu : upper ≤ octets.length) :
    slice? octets lower upper = some ((octets.drop lower).take (upper - lower)) :=
  if_pos ⟨hl, hu⟩

theorem overwrite?_eq {octets bytes : Bytes} (h : bytes.length ≤ octets.length) :
    overwrite? octets bytes = some (splice octets 0 bytes) := by
  have hc : copy? (octets.take bytes.length) bytes = some bytes :=
    if_pos (List.length_take_of_le h)
  rw [overwrite?, slice?_eq (Nat.zero_le _) h, Option.bind_eq_bind, Option.bind_some,
    List.drop_zero, Nat.sub_zero, hc]
  rfl

-- An octet that is written in a slice is written in the octets it is a slice of.
theorem splice_set {octets : Bytes} {lower n i : Nat} (hn : lower + n ≤ octets.length) (hi : i < n)
    (v : UInt8) :
    splice octets lower (((octets.drop lower).take n).set i v) = octets.set (lower + i) v := by
  have hs : ((octets.drop lower).take n).length = n := by
    rw [List.length_take, List.length_drop]
    omega
  have hl : (octets.take lower).length = lower := List.length_take_of_le (by omega)
  have ht : octets = octets.take lower ++
      ((octets.drop lower).take n ++ octets.drop (lower + n)) := by
    rw [← List.drop_drop, List.take_append_drop, List.take_append_drop]
  calc splice octets lower (((octets.drop lower).take n).set i v)
      = octets.take lower ++
          (((octets.drop lower).take n).set i v ++ octets.drop (lower + n)) := by
        rw [splice, List.length_set, hs, List.append_assoc]
    _ = octets.take lower ++
          ((octets.drop lower).take n ++ octets.drop (lower + n)).set i v := by
        rw [List.set_append_left _ _ (by omega)]
    _ = octets.set (lower + i) v := by
        conv_rhs => rw [ht, List.set_append_right _ _ (by omega), hl, Nat.add_sub_cancel_left]

-- Octets that are copied to the front of the last slice.
theorem splice_splice {octets bytes : Bytes} {lower : Nat}
    (h : lower + bytes.length ≤ octets.length) :
    splice octets lower (splice (octets.drop lower) 0 bytes) =
      Bytes.overlay lower bytes octets := by
  have hb : bytes.take (octets.length - lower) = bytes := List.take_of_length_le (by omega)
  have hd : octets.length ≤ lower + (bytes ++ octets.drop (lower + bytes.length)).length := by
    rw [List.length_append, List.length_drop]
    omega
  rw [Bytes.overlay, hb, splice, splice, List.take_zero, List.nil_append, Nat.zero_add,
    List.drop_drop, List.drop_eq_nil_of_le hd, List.append_nil, List.append_assoc]

end Checked

namespace Buffer

open Checked

variable {b : Buffer}

def data? (b : Buffer) : Option Bytes := slice? b.storage b.offset (b.offset + b.length)

def tail? (b : Buffer) : Option Bytes := slice? b.storage (b.offset + b.length) b.storage.length

def tailroom? (b : Buffer) : Option Nat := do
  let usable ← sub? b.storage.length b.offset
  sub? usable b.length

theorem data?_eq (h : b.InBounds) : b.data? = some b.data := by
  rw [data?, slice?_eq (Nat.le_add_right ..) h, Nat.add_sub_cancel_left]
  rfl

theorem tail?_eq (h : b.InBounds) : b.tail? = some b.tail := by
  rw [tail?, slice?_eq h (Nat.le_refl _), ← List.length_drop, List.take_length]
  rfl

theorem tailroom?_eq (h : b.InBounds) : b.tailroom? = some b.tailroom := by
  unfold InBounds at h
  rw [tailroom?, sub?_eq (by omega), Option.bind_eq_bind, Option.bind_some, sub?_eq (by omega)]
  rfl

end Buffer

namespace Buffers

open Checked

variable {b : Buffer}

def edit? (b : Buffer) : Edit → Option Edited
  | .append bytes => do
    let tail ← b.tail?
    if tail.length < bytes.length then return .refused
    let tail ← overwrite? tail bytes
    return .done { b with
      storage := splice b.storage (b.offset + b.length) tail
      length := b.length + bytes.length }
  | .setLength n => do
    let usable ← sub? b.storage.length b.offset
    return .done { b with length := min n usable }
  | .poke i v => do
    let data ← b.data?
    if data.length ≤ i then return .outside
    return .done { b with storage := splice b.storage b.offset (data.set i v) }
  | .pokeTail i v => do
    let tail ← b.tail?
    if tail.length ≤ i then return .outside
    return .done { b with storage := splice b.storage (b.offset + b.length) (tail.set i v) }
  | .setPort port => some (.done { b with port })

-- What comes of a buffer by changes one after the other, with bounds checked and without.
def after? (b : Buffer) (edits : List Edit) : Option Buffer :=
  edits.foldlM (fun b e => (edit? b e).map (Edited.buffer b)) b

def after (b : Buffer) (edits : List Edit) : Buffer :=
  edits.foldl (fun b e => (edit b e).buffer b) b

theorem edit?_append (h : b.InBounds) (bytes : Bytes) :
    edit? b (.append bytes) = some (edit b (.append bytes)) := by
  have ht := b.length_tail
  simp only [edit?, Buffer.tail?_eq h, Option.bind_eq_bind, Option.bind_some, edit,
    Buffer.append?]
  by_cases hl : bytes.length ≤ b.tailroom
  case pos =>
    have hs : b.offset + b.length + bytes.length ≤ b.storage.length := by
      unfold Buffer.InBounds at h
      unfold Buffer.tailroom at hl
      omega
    rw [if_neg (Nat.not_lt.2 (ht ▸ hl)), if_pos hl, overwrite?_eq (ht ▸ hl), Option.bind_some,
      Buffer.tail, splice_splice hs]
    rfl
  case neg =>
    rw [if_pos (ht ▸ Nat.not_le.1 hl), if_neg hl]
    rfl

theorem edit?_poke (h : b.InBounds) (i : Nat) (v : UInt8) :
    edit? b (.poke i v) = some (edit b (.poke i v)) := by
  simp only [edit?, Buffer.data?_eq h, Option.bind_eq_bind, Option.bind_some, edit,
    Buffer.poke?, Buffer.length_data h]
  by_cases hi : i < b.length
  case pos =>
    rw [if_neg (Nat.not_le.2 hi), if_pos hi, Buffer.data, splice_set h hi]
    rfl
  case neg =>
    rw [if_pos (Nat.not_lt.1 hi), if_neg hi]
    rfl

theorem edit?_pokeTail (h : b.InBounds) (i : Nat) (v : UInt8) :
    edit? b (.pokeTail i v) = some (edit b (.pokeTail i v)) := by
  have ht := b.length_tail
  simp only [edit?, Buffer.tail?_eq h, Option.bind_eq_bind, Option.bind_some, edit,
    Buffer.pokeTail?, ht]
  by_cases hi : i < b.tailroom
  case pos =>
    have hs : b.offset + b.length + b.tailroom ≤ b.storage.length :=
      Nat.le_of_eq (Buffer.length_parts h)
    have hd : b.tail = (b.storage.drop (b.offset + b.length)).take b.tailroom := by
      rw [← ht, Buffer.tail, List.take_length]
    rw [if_neg (Nat.not_le.2 hi), if_pos hi, hd, splice_set hs hi]
    rfl
  case neg =>
    rw [if_pos (Nat.not_lt.1 hi), if_neg hi]
    rfl

-- No change of a buffer within its storage goes out of bounds.
theorem edit?_eq (h : b.InBounds) (e : Edit) : edit? b e = some (edit b e) := by
  cases e
  case append bytes => exact edit?_append h bytes
  case setLength n =>
    rw [edit?, sub?_eq (Nat.le_trans (Nat.le_add_right ..) h)]
    rfl
  case poke i v => exact edit?_poke h i v
  case pokeTail i v => exact edit?_pokeTail h i v
  case setPort port => rfl

end Buffers

end TapPort
