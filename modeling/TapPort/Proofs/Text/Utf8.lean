import Mathlib.Data.List.TakeWhile
import TapPort.Text.Utf8

namespace TapPort.Text

section Octets

variable {m x y z : Nat}

theorem toNat_ofNat (hx : x < 256) : (UInt8.ofNat x).toNat = x := UInt8.toNat_ofNat_of_lt' hx

theorem le_ofNat {low : UInt8} (hx : x < 256) : low ≤ UInt8.ofNat x ↔ low.toNat ≤ x := by
  rw [UInt8.le_iff_toNat_le, toNat_ofNat hx]

theorem ofNat_le {high : UInt8} (hx : x < 256) : UInt8.ofNat x ≤ high ↔ x ≤ high.toNat := by
  rw [UInt8.le_iff_toNat_le, toNat_ofNat hx]

theorem isContinuation_ofNat (hx : x < 64) : isContinuation (UInt8.ofNat (x + 128)) = true := by
  have hl : x + 128 < 256 := by omega
  simp only [isContinuation, Bool.and_eq_true, decide_eq_true_eq, le_ofNat hl, ofNat_le hl]
  exact ⟨Nat.le_add_left .., Nat.add_le_add_right (Nat.le_of_lt_succ hx) 128⟩

-- The octets that go with a first one are all there where they are in the right ranges.
theorem tail_append {low high b : UInt8} (bs : Bytes) (hl : low ≤ b) (hh : b ≤ high)
    (hb : ∀ b ∈ bs, isContinuation b = true) (rest : Bytes) :
    tail (bs.length + 1) low high (b :: bs ++ rest) = b :: bs := by
  have ht : (bs ++ rest).take bs.length = bs := List.take_left
  simp only [List.cons_append, tail, Nat.add_sub_cancel, ht, hl, hh, decide_true, Bool.and_true,
    Nat.add_one_ne_zero, if_false, if_true]
  rw [List.takeWhile_eq_self_iff.2 hb]

theorem decodeChars_of_tail {first low high : UInt8} (more : Bytes) {rest : Bytes}
    (hf : following first = some (more.length, low, high) ∧ ¬first < 0x80)
    (ht : tail more.length low high (more ++ rest) = more) (fuel : Nat) :
    decodeChars (fuel + 1) (first :: (more ++ rest)) =
      Char.ofNat (position first more) :: decodeChars fuel rest := by
  simp only [decodeChars, hf.1, hf.2, if_false, ht, if_true, List.drop_left]

-- The first octets of two.
theorem following_two : ∀ m < 32, 2 ≤ m →
    following (UInt8.ofNat (m + 192)) = some (1, 0x80, 0xbf) ∧ ¬UInt8.ofNat (m + 192) < 0x80 := by
  decide

-- The first octets of three. Two of them leave less room for the next one.
theorem following_three : ∀ m < 16,
    following (UInt8.ofNat (m + 224)) =
        some (2, if m = 0 then 0xa0 else 0x80, if m = 13 then 0x9f else 0xbf) ∧
      ¬UInt8.ofNat (m + 224) < 0x80 := by
  decide

-- The first octets of four.
theorem following_four : ∀ m < 5,
    following (UInt8.ofNat (m + 240)) =
        some (3, if m = 0 then 0x90 else 0x80, if m = 4 then 0x8f else 0xbf) ∧
      ¬UInt8.ofNat (m + 240) < 0x80 := by
  decide

variable (rest : Bytes) (fuel : Nat)

theorem decodeChars_one (hx : x < 128) :
    decodeChars (fuel + 1) (UInt8.ofNat x :: rest) = Char.ofNat x :: decodeChars fuel rest := by
  have hn := toNat_ofNat (x := x) (by omega)
  have ha : UInt8.ofNat x < 0x80 := by
    rw [UInt8.lt_iff_toNat_lt, hn]
    exact hx
  simp only [decodeChars, ha, if_true, hn]

theorem decodeChars_two (hm : m < 32) (hl : 2 ≤ m) (hx : x < 64) :
    decodeChars (fuel + 1) (UInt8.ofNat (m + 192) :: UInt8.ofNat (x + 128) :: rest) =
      Char.ofNat (64 * m + x) :: decodeChars fuel rest := by
  have ha : 0x80 ≤ UInt8.ofNat (x + 128) := (le_ofNat (by omega)).2 (Nat.le_add_left ..)
  have hb : UInt8.ofNat (x + 128) ≤ 0xbf :=
    (ofNat_le (by omega)).2 (Nat.add_le_add_right (Nat.le_of_lt_succ hx) 128)
  have ht := tail_append [] ha hb nofun rest
  have hp : position (UInt8.ofNat (m + 192)) [UInt8.ofNat (x + 128)] = 64 * m + x := by
    simp only [position, List.length_singleton, List.foldl_cons, List.foldl_nil]
    rw [toNat_ofNat (by omega), toNat_ofNat (by omega)]
    omega
  rw [← hp]
  exact decodeChars_of_tail [_] (following_two m hm hl) ht fuel

theorem decodeChars_three (hm : m < 16) (hx : x < 64) (hy : y < 64) (hl : m = 0 → 32 ≤ x)
    (hh : m = 13 → x < 32) :
    decodeChars (fuel + 1)
        (UInt8.ofNat (m + 224) :: UInt8.ofNat (x + 128) :: UInt8.ofNat (y + 128) :: rest) =
      Char.ofNat (64 * (64 * m + x) + y) :: decodeChars fuel rest := by
  have ha : (if m = 0 then 0xa0 else 0x80 : UInt8) ≤ UInt8.ofNat (x + 128) := by
    rw [le_ofNat (by omega)]
    split
    case isTrue h => exact Nat.add_le_add_right (hl h) 128
    case isFalse => exact Nat.le_add_left ..
  have hb : UInt8.ofNat (x + 128) ≤ (if m = 13 then 0x9f else 0xbf : UInt8) := by
    rw [ofNat_le (by omega)]
    split
    case isTrue h => exact Nat.add_le_add_right (Nat.le_of_lt_succ (hh h)) 128
    case isFalse => exact Nat.add_le_add_right (Nat.le_of_lt_succ hx) 128
  have ht := tail_append [UInt8.ofNat (y + 128)] ha hb
    (List.forall_mem_singleton.2 (isContinuation_ofNat hy)) rest
  have hp : position (UInt8.ofNat (m + 224)) [UInt8.ofNat (x + 128), UInt8.ofNat (y + 128)] =
      64 * (64 * m + x) + y := by
    simp only [position, List.length_cons, List.length_nil, List.foldl_cons, List.foldl_nil]
    rw [toNat_ofNat (by omega), toNat_ofNat (by omega), toNat_ofNat (by omega)]
    omega
  rw [← hp]
  exact decodeChars_of_tail [_, _] (following_three m hm) ht fuel

theorem decodeChars_four (hm : m < 5) (hx : x < 64) (hy : y < 64) (hz : z < 64)
    (hl : m = 0 → 16 ≤ x) (hh : m = 4 → x < 16) :
    decodeChars (fuel + 1)
        (UInt8.ofNat (m + 240) :: UInt8.ofNat (x + 128) :: UInt8.ofNat (y + 128) ::
          UInt8.ofNat (z + 128) :: rest) =
      Char.ofNat (64 * (64 * (64 * m + x) + y) + z) :: decodeChars fuel rest := by
  have ha : (if m = 0 then 0x90 else 0x80 : UInt8) ≤ UInt8.ofNat (x + 128) := by
    rw [le_ofNat (by omega)]
    split
    case isTrue h => exact Nat.add_le_add_right (hl h) 128
    case isFalse => exact Nat.le_add_left ..
  have hb : UInt8.ofNat (x + 128) ≤ (if m = 4 then 0x8f else 0xbf : UInt8) := by
    rw [ofNat_le (by omega)]
    split
    case isTrue h => exact Nat.add_le_add_right (Nat.le_of_lt_succ (hh h)) 128
    case isFalse => exact Nat.add_le_add_right (Nat.le_of_lt_succ hx) 128
  have ht := tail_append [UInt8.ofNat (y + 128), UInt8.ofNat (z + 128)] ha hb
    (List.forall_mem_cons.2 ⟨isContinuation_ofNat hy,
      List.forall_mem_singleton.2 (isContinuation_ofNat hz)⟩) rest
  have hp : position (UInt8.ofNat (m + 240))
      [UInt8.ofNat (x + 128), UInt8.ofNat (y + 128), UInt8.ofNat (z + 128)] =
        64 * (64 * (64 * m + x) + y) + z := by
    simp only [position, List.length_cons, List.length_nil, List.foldl_cons, List.foldl_nil]
    rw [toNat_ofNat (by omega), toNat_ofNat (by omega), toNat_ofNat (by omega),
      toNat_ofNat (by omega)]
    omega
  rw [← hp]
  exact decodeChars_of_tail [_, _, _] (following_four m hm) ht fuel

end Octets

-- A character is read where its encoding begins, with nothing of what follows.
theorem decodeChars_encoded (c : Char) (rest : Bytes) (fuel : Nat) :
    decodeChars (fuel + 1) (String.utf8EncodeChar c ++ rest) = c :: decodeChars fuel rest := by
  have hv : c.val.toNat < 0xd800 ∨ 0xdfff < c.val.toNat ∧ c.val.toNat < 0x110000 := c.valid
  have hc {n : Nat} (h : n = c.val.toNat) : Char.ofNat n = c := h ▸ c.ofNat_toNat
  simp only [String.utf8EncodeChar]
  generalize c.val.toNat = v at hv hc
  split
  case isTrue h =>
    refine (decodeChars_one rest fuel (Nat.lt_succ_of_le h)).trans ?_
    rw [hc rfl]
  case isFalse h₁ =>
    split
    case isTrue h₂ =>
      refine (decodeChars_two rest fuel ?_ ?_ ?_).trans ?_
      case refine_4 => rw [hc (by omega)]
      all_goals omega
    case isFalse h₂ =>
      split
      case isTrue h₃ =>
        refine (decodeChars_three rest fuel ?_ ?_ ?_ ?_ ?_).trans ?_
        case refine_6 => rw [hc (by omega)]
        all_goals omega
      case isFalse h₃ =>
        refine (decodeChars_four rest fuel ?_ ?_ ?_ ?_ ?_ ?_).trans ?_
        case refine_7 => rw [hc (by omega)]
        all_goals omega

theorem decodeChars_flatMap (cs : List Char) {fuel : Nat} (h : cs.length ≤ fuel) :
    decodeChars fuel (cs.flatMap String.utf8EncodeChar) = cs := by
  induction cs generalizing fuel
  case nil => cases fuel <;> rfl
  case cons c cs ih =>
    have ⟨n, hn⟩ := Nat.exists_eq_add_one.2 (Nat.lt_of_lt_of_le (Nat.succ_pos _) h)
    subst hn
    rw [List.flatMap_cons, decodeChars_encoded, ih (Nat.le_of_succ_le_succ h)]

theorem length_le_encoded (cs : List Char) :
    cs.length ≤ (cs.flatMap String.utf8EncodeChar).length := by
  induction cs
  case nil => exact Nat.le_refl _
  case cons c cs ih =>
    have hc := c.utf8Size_pos
    rw [List.flatMap_cons, List.length_append, List.length_cons, String.length_utf8EncodeChar]
    omega

-- The octets of a text are read as that text.
theorem decode_utf8 (s : String) : decode (utf8 s) = s := by
  rw [decode, utf8, decodeChars_flatMap s.toList (length_le_encoded _), String.ofList_toList]

-- Every octet of a character beyond the lower half is of the upper half.
theorem le_of_mem_encoded {c : Char} (hc : 128 ≤ c.toNat) :
    ∀ b ∈ String.utf8EncodeChar c, 128 ≤ b.toNat := by
  have hl : ¬c.val.toNat ≤ 127 := Nat.not_le.2 hc
  have cons {x low : Nat} {bs : Bytes} (h : 128 ≤ low ∧ x + low < 256)
      (hs : ∀ b ∈ bs, 128 ≤ b.toNat) : ∀ b ∈ UInt8.ofNat (x + low) :: bs, 128 ≤ b.toNat := by
    refine List.forall_mem_cons.2 ⟨?_, hs⟩
    rw [toNat_ofNat h.2]
    exact Nat.le_add_left_of_le h.1
  simp only [String.utf8EncodeChar, if_neg hl]
  split
  case isTrue => exact cons (by omega) (cons (by omega) nofun)
  case isFalse =>
    split
    case isTrue => exact cons (by omega) (cons (by omega) (cons (by omega) nofun))
    case isFalse =>
      exact cons (by omega) (cons (by omega) (cons (by omega) (cons (by omega) nofun)))

-- An octet of the lower half stands for its own character wherever it is.
theorem mem_encoded_iff {b : UInt8} (hb : b.toNat < 128) (c : Char) :
    b ∈ String.utf8EncodeChar c ↔ c = Char.ofNat b.toNat := by
  have ha : ∀ n < 128, (Char.ofNat n).toNat = n := by decide
  have hn := ha b.toNat hb
  by_cases hc : c.toNat < 128
  case pos =>
    have he : String.utf8EncodeChar c = [UInt8.ofNat c.toNat] := if_pos (Nat.le_of_lt_succ hc)
    rw [he, List.mem_singleton]
    constructor
    case mp =>
      rintro rfl
      rw [toNat_ofNat (Nat.lt_trans hc (by decide)), Char.ofNat_toNat]
    case mpr =>
      rintro rfl
      rw [hn, UInt8.ofNat_toNat]
  case neg =>
    constructor
    case mp => exact fun h => (Nat.not_lt.2 (le_of_mem_encoded (Nat.not_lt.1 hc) b h) hb).elim
    case mpr =>
      rintro rfl
      rw [hn] at hc
      exact (hc hb).elim

-- So a text of such characters has as many octets.
theorem length_utf8_of_lt {s : String} (h : ∀ c ∈ s.toList, c.toNat < 128) :
    (utf8 s).length = s.toList.length := by
  rw [utf8]
  generalize s.toList = cs at h
  induction cs
  case nil => rfl
  case cons c cs ih =>
    have ⟨hc, hcs⟩ := List.forall_mem_cons.1 h
    have he : String.utf8EncodeChar c = [UInt8.ofNat c.toNat] := if_pos (Nat.le_of_lt_succ hc)
    rw [List.flatMap_cons, List.length_append, ih hcs, he, List.length_cons, Nat.add_comm]
    rfl

theorem mem_utf8_iff {b : UInt8} (hb : b.toNat < 128) (s : String) :
    b ∈ utf8 s ↔ Char.ofNat b.toNat ∈ s.toList := by
  simp only [utf8, List.mem_flatMap, mem_encoded_iff hb, exists_eq_right]

end TapPort.Text
