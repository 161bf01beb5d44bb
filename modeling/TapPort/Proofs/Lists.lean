import Mathlib.Data.List.Perm.Basic

namespace TapPort

variable {α β : Type}

-- A change of one element does not show where what is looked at stays as it is.
theorem map_modify {g : α → β} {f : α → α} (hf : ∀ a, g (f a) = g a) (l : List α) (i : Nat) :
    (l.modify i f).map g = l.map g := by
  apply List.ext_getElem?
  intro j
  simp only [List.getElem?_map, List.getElem?_modify]
  cases l[j]? <;> simp
  split <;> simp [hf]

-- The element in a place, if there is one, and all others.
theorem perm_eraseIdx (l : List α) (i : Nat) : l.Perm (l[i]?.toList ++ l.eraseIdx i) := by
  cases hi : l[i]?
  case none =>
    rw [List.eraseIdx_of_length_le (List.getElem?_eq_none_iff.1 hi)]
    exact .refl l
  case some a =>
    have ⟨hl, ha⟩ := List.getElem?_eq_some_iff.1 hi
    exact ha ▸ (List.getElem_cons_eraseIdx_perm hl).symm

end TapPort
