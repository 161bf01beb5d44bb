import Mathlib.Data.List.Basic
import TapPort.Text.Numeral

namespace TapPort.Text

-- That some characters are decimal digits, at least one, and what these come to.
structure IsNumeral (digits : List Char) (n : Nat) : Prop where
  ne_nil : digits ≠ []
  isDigit : ∀ c ∈ digits, c.isDigit = true
  value : Nat.ofDigitChars 10 digits 0 = n

-- That some characters are decimal digits, maybe behind a plus sign, and what these come to.
inductive IsCount : List Char → Nat → Prop
  | bare {digits n} : IsNumeral digits n → IsCount digits n
  | signed {digits n} : IsNumeral digits n → IsCount ('+' :: digits) n

variable {n m bound : Nat} {cs : List Char}

theorem head?_toDigits_ne (h : n ≠ 0) : (Nat.toDigits 10 n).head? ≠ some '0' := by
  induction n using Nat.strongRecOn
  case ind n ih =>
    rw [Nat.toDigits_eq_if (by decide)]
    split
    case isTrue hn =>
      have hd : ∀ n < 10, n ≠ 0 → Nat.digitChar n ≠ '0' := by decide
      simpa using hd n hn h
    case isFalse hn =>
      have hl : Nat.toDigits 10 (n / 10) ≠ [] := List.length_pos_iff.1 Nat.length_toDigits_pos
      rw [List.head?_append_of_ne_nil _ hl]
      exact ih (n / 10) (by omega) (by omega)

theorem isDigit_of_mem_toDigits : ∀ c ∈ Nat.toDigits 10 n, c.isDigit = true :=
  fun _ hc => Nat.isDigit_of_mem_toDigits (by decide) (by decide) hc

theorem natOfDigits?_toDigits (n : Nat) : natOfDigits? (Nat.toDigits 10 n) = some n := by
  have hd : (Nat.toDigits 10 n).all Char.isDigit = true :=
    List.all_eq_true.2 isDigit_of_mem_toDigits
  have hv : Nat.ofDigitChars 10 (Nat.toDigits 10 n) 0 = n := Nat.ofDigitChars_ten_toDigits
  have hl : 0 < (Nat.toDigits 10 n).length := Nat.length_toDigits_pos
  rw [Nat.ofDigitChars_eq_foldl] at hv
  generalize Nat.toDigits 10 n = ds at hd hv hl
  cases ds
  case nil => exact (Nat.lt_irrefl 0 hl).elim
  case cons d ds => rw [natOfDigits?, if_pos hd, hv]; exact nofun

theorem exists_toDigits_eq_cons (n : Nat) :
    ∃ d ds, Nat.toDigits 10 n = d :: ds ∧ d.isDigit = true := by
  have hl : 0 < (Nat.toDigits 10 n).length := Nat.length_toDigits_pos
  have hd := isDigit_of_mem_toDigits (n := n)
  cases h : Nat.toDigits 10 n
  case nil => simp [h] at hl
  case cons d ds => exact ⟨d, ds, rfl, hd d (by simp [h])⟩

theorem toList_toString_int (n : Int) :
    (toString n).toList =
      if n < 0 then '-' :: Nat.toDigits 10 n.natAbs else Nat.toDigits 10 n.natAbs := by
  cases n
  case ofNat n => simp [toString, Int.repr, Nat.repr_eq_ofList_toDigits]
  case negSucc n => simp [toString, Int.repr, Nat.repr_eq_ofList_toDigits]

theorem exists_toString_int_eq_cons (n : Int) :
    ∃ c cs, (toString n).toList = c :: cs ∧ (c = '-' ∨ c.isDigit = true) := by
  rw [toList_toString_int]
  split
  case isTrue => exact ⟨_, _, rfl, .inl rfl⟩
  case isFalse =>
    have ⟨d, ds, h, hd⟩ := exists_toDigits_eq_cons n.natAbs
    exact ⟨d, ds, h, .inr hd⟩

section Counts

theorem natOfDigits?_eq_some_iff : natOfDigits? cs = some n ↔ IsNumeral cs n := by
  cases cs
  case nil => exact ⟨nofun, fun h => (h.ne_nil rfl).elim⟩
  case cons c cs =>
    rw [natOfDigits?, ← Nat.ofDigitChars_eq_foldl]
    case x_1 => exact nofun
    constructor
    case mp =>
      intro h
      split at h
      case isFalse => cases h
      case isTrue hd => exact ⟨List.cons_ne_nil _ _, List.all_eq_true.1 hd, Option.some.inj h⟩
    case mpr =>
      intro h
      rw [if_pos (List.all_eq_true.2 h.isDigit), h.value]

-- No plus sign is a digit, so a numeral is read as it stands.
theorem IsNumeral.head?_ne (h : IsNumeral cs n) : cs.head? ≠ some '+' := by
  intro hc
  cases h.isDigit '+' (List.mem_of_mem_head? hc)

theorem natBelow?_of_head?_ne (h : cs.head? ≠ some '+') :
    natBelow? bound cs = (natOfDigits? cs).filter (· < bound) := by
  unfold natBelow?
  split
  case h_1 => exact (h rfl).elim
  case h_2 => rfl

theorem natBelow?_eq_some_iff : natBelow? bound cs = some n ↔ IsCount cs n ∧ n < bound := by
  have hf (ds : List Char) :
      (natOfDigits? ds).filter (· < bound) = some n ↔ IsNumeral ds n ∧ n < bound := by
    rw [Option.filter_eq_some_iff, decide_eq_true_eq, natOfDigits?_eq_some_iff]
  by_cases hs : cs.head? = some '+'
  case pos =>
    have ⟨rest, hr⟩ := List.head?_eq_some_iff.1 hs
    subst hr
    refine Iff.trans (hf rest) (and_congr_left' ⟨.signed, ?_⟩)
    rintro (h | h)
    case bare => exact (h.head?_ne rfl).elim
    case signed => exact h
  case neg =>
    rw [natBelow?_of_head?_ne hs, hf]
    refine and_congr_left' ⟨.bare, ?_⟩
    rintro (h | h)
    case bare => exact h
    case signed => exact (hs rfl).elim

theorem IsCount.unique (h : IsCount cs n) (h' : IsCount cs m) : n = m := by
  have hn := natBelow?_eq_some_iff.2 ⟨h, Nat.lt_succ_of_le (Nat.le_max_left n m)⟩
  have hm := natBelow?_eq_some_iff.2 ⟨h', Nat.lt_succ_of_le (Nat.le_max_right n m)⟩
  exact Option.some.inj (hn.symm.trans hm)

theorem isCount_toDigits (n : Nat) : IsCount (Nat.toDigits 10 n) n :=
  .bare (natOfDigits?_eq_some_iff.1 (natOfDigits?_toDigits n))

end Counts

end TapPort.Text
