import Mathlib.Data.List.Basic

namespace TapPort

-- Turns that follow one another as long as they work, and at most so many.
inductive Streak {α : Type} (works : α → Bool) : Nat → List α → Prop
  | full : Streak works 0 []
  | failed {n a} : works a = false → Streak works (n + 1) [a]
  | next {n a as} : works a = true → Streak works n as → Streak works (n + 1) (a :: as)

namespace Streak

variable {α : Type} {works : α → Bool} {n : Nat} {as : List α}

theorem length_le (h : Streak works n as) : as.length ≤ n := by
  induction h
  case full => exact Nat.le_refl 0
  case failed n _ _ => exact Nat.le_add_left 1 n
  case next ih => exact Nat.succ_le_succ ih

theorem countP_le (h : Streak works n as) : as.countP works ≤ n :=
  Nat.le_trans List.countP_le_length h.length_le

-- No turn that works comes after one that does not.
theorem works_iff (h : Streak works n as) {i : Nat} {a : α} (ha : as[i]? = some a) :
    works a = true ↔ i < as.countP works := by
  induction h generalizing i
  case full => cases ha
  case failed hw =>
    have ⟨hi, he⟩ := List.getElem?_eq_some_iff.1 ha
    cases Nat.lt_one_iff.1 hi
    cases he
    simp [hw]
  case next hw _ ih =>
    rw [List.countP_cons_of_pos hw]
    cases i
    case zero =>
      cases ha
      simp [hw]
    case succ i => exact (ih ha).trans Nat.succ_lt_succ_iff.symm

theorem filter_eq (h : Streak works n as) : as.filter works = as.take (as.countP works) := by
  induction h
  case full => rfl
  case failed hw => simp [hw]
  case next hw _ ih =>
    rw [List.filter_cons_of_pos hw, List.countP_cons_of_pos hw, ih, List.take_succ_cons]

-- That the last of some turns did not work.
def Broken (works : α → Bool) (as : List α) : Prop := ∃ a ∈ as.getLast?, works a = false

theorem not_broken_nil : ¬Broken works [] := nofun

theorem broken_singleton {a : α} : Broken works [a] ↔ works a = false := by simp [Broken]

theorem broken_cons {a : α} (h : works a = true) : Broken works (a :: as) ↔ Broken works as := by
  cases as
  case nil => simp [Broken, h]
  case cons => simp [Broken, List.getLast?_cons_cons]

-- After some of the turns the loop is over if these were all that it may make or the last of them
-- did not work; otherwise it goes on.
theorem stops (h : Streak works n as) {k : Nat} (hk : k ≤ as.length) :
    k = as.length ↔ k = n ∨ Broken works (as.take k) := by
  induction h generalizing k
  case full =>
    cases Nat.le_zero.1 hk
    simp
  case failed hw =>
    cases k
    case zero => simp [not_broken_nil]
    case succ k =>
      cases Nat.le_zero.1 (Nat.le_of_succ_le_succ hk)
      simp [broken_singleton, hw]
  case next a as hw _ ih =>
    cases k
    case zero => simp [not_broken_nil]
    case succ k =>
      rw [List.take_succ_cons, broken_cons hw, List.length_cons, Nat.add_right_cancel_iff,
        Nat.add_right_cancel_iff]
      exact ih (Nat.le_of_succ_le_succ hk)

theorem length_eq (h : Streak works n as) (hw : ∀ a ∈ as, works a = true) : as.length = n := by
  cases (h.stops (Nat.le_refl _)).1 rfl
  case inl hn => exact hn
  case inr hb =>
    have ⟨a, ha, hn⟩ := hb
    rw [List.take_length] at ha
    exact (Bool.false_ne_true (hn.symm.trans (hw a (List.mem_of_getLast? ha)))).elim

end Streak

end TapPort
