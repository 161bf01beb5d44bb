import Mathlib.Data.List.Induction

namespace TapPort

variable {α : Type} {φ ψ ψ' : α → Prop} {l : List α} {a : α}

-- That `ψ` happened at some time, and that everything after it was `φ`.
def Since (φ ψ : α → Prop) (l : List α) : Prop :=
  ∃ before a after, l = before ++ a :: after ∧ ψ a ∧ ∀ b ∈ after, φ b

namespace Since

theorem now (h : ψ a) : Since φ ψ (l ++ [a]) :=
  ⟨l, a, [], rfl, h, fun _ hb => (List.not_mem_nil hb).elim⟩

theorem later (h : φ a) (s : Since φ ψ l) : Since φ ψ (l ++ [a]) := by
  obtain ⟨before, b, after, hl, hb, ha⟩ := s
  refine ⟨before, b, after ++ [a], by simp [hl], hb, ?_⟩
  intro c hc
  cases List.mem_append.1 hc
  case inl hc => exact ha c hc
  case inr hc => exact List.mem_singleton.1 hc ▸ h

theorem concat_iff : Since φ ψ (l ++ [a]) ↔ ψ a ∨ φ a ∧ Since φ ψ l := by
  constructor
  case mp =>
    rintro ⟨before, b, after, hl, hb, ha⟩
    cases after using List.reverseRecOn
    case nil =>
      have h := (List.append_inj' hl rfl).2
      injection h with h
      exact .inl (h ▸ hb)
    case append_singleton after c _ =>
      rw [← List.cons_append, ← List.append_assoc] at hl
      obtain ⟨h, hc⟩ := List.append_inj' hl rfl
      injection hc with hc
      refine .inr ⟨hc ▸ ha c (by simp), before, b, after, h, hb, ?_⟩
      exact fun d hd => ha d (List.mem_append_left _ hd)
  case mpr =>
    intro h
    cases h
    case inl h => exact now h
    case inr h => exact later h.1 h.2

theorem not_nil : ¬Since φ ψ ([] : List α) := by
  rintro ⟨before, a, after, h, _⟩
  simp at h

theorem mono (h : ∀ a, ψ a → ψ' a) (s : Since φ ψ l) : Since φ ψ' l := by
  obtain ⟨before, a, after, hl, ha, hb⟩ := s
  exact ⟨before, a, after, hl, h a ha, hb⟩

-- Of two kinds of events, that neither happened after the last one of the other kind means that
-- one event was of both.
theorem crossed (s : Since (¬ψ' ·) ψ l) (s' : Since (¬ψ ·) ψ' l) : ∃ a, ψ a ∧ ψ' a := by
  induction l using List.reverseRecOn
  case nil => exact (not_nil s).elim
  case append_singleton l a ih =>
    rw [concat_iff] at s s'
    cases s
    case inl h =>
      cases s'
      case inl h' => exact ⟨a, h, h'⟩
      case inr h' => exact (h'.1 h).elim
    case inr h =>
      cases s'
      case inl h' => exact (h.1 h').elim
      case inr h' => exact ih h.2 h'.2

end Since

end TapPort
