import TapPort.Proofs.History
import TapPort.Proofs.Port.Machine

namespace TapPort

namespace Port

variable {κ δ : Type} [Device δ κ]

namespace Transition

variable {t : Transition κ δ} {q : Nat}

def SetsUpRx (t : Transition κ δ) (q : Nat) : Prop :=
  (∃ pool pools, t.call.op = .setUpRx q pool pools) ∧ t.effect.succeeded = true

def SetsUpTx (t : Transition κ δ) (q : Nat) : Prop :=
  t.call.op = .setUpTx q ∧ t.effect.succeeded = true

def SetsUp (t : Transition κ δ) (q : Nat) : Prop := t.SetsUpRx q ∨ t.SetsUpTx q

def ReleasesRx (t : Transition κ δ) (q : Nat) : Prop := t.call.op = .releaseRx q

-- That a transition closes the descriptor of a queue, whatever it was meant for.
def Closes (t : Transition κ δ) (q : Nat) : Prop :=
  t.source.queueIsOpen q = true ∧ t.target.queueIsOpen q = false

theorem view_target (t : Transition κ δ) :
    t.target.view = if t.effect.succeeded then t.source.view.next t.call.op else t.source.view :=
  view_step t.source t.call.dev t.call.op

theorem view_target_of_failed (h : t.effect.succeeded = false) : t.target.view = t.source.view := by
  simp [view_target, h]

theorem view_target_of_succeeded (h : t.effect.succeeded = true) :
    t.target.view = t.source.view.next t.call.op := by
  simp [view_target, h]

theorem setsUp_of_opens (hs : t.source.queueIsOpen q = false)
    (ht : t.target.queueIsOpen q = true) : t.SetsUp q := by
  rw [← mem_opened] at ht
  replace hs : q ∉ t.source.view.opened := by simp [mem_opened, hs]
  cases he : t.effect.succeeded
  case false => exact (hs (view_target_of_failed he ▸ ht)).elim
  case true =>
    rw [view_target_of_succeeded he] at ht
    cases ho : t.call.op <;> simp only [ho, Machine.next] at ht
    case setUpRx i pool pools =>
      cases Finset.mem_insert.1 ht
      case inl hi => exact .inl ⟨⟨pool, pools, hi ▸ ho⟩, he⟩
      case inr hi => exact (hs hi).elim
    case setUpTx i =>
      cases Finset.mem_insert.1 ht
      case inl hi => exact .inr ⟨hi ▸ ho, he⟩
      case inr hi => exact (hs hi).elim
    case stop | close | shutdown =>
      split at ht
      case isTrue => exact (hs ht).elim
      case isFalse => exact (Finset.notMem_empty _ ht).elim
    case releaseRx | releaseTx => exact (hs (Finset.mem_of_mem_erase ht)).elim
    all_goals exact (hs ht).elim

theorem SetsUp.opens (h : t.SetsUp q) : t.target.queueIsOpen q = true := by
  rw [← mem_opened]
  cases h
  case inl h =>
    obtain ⟨⟨pool, pools, ho⟩, he⟩ := h
    simp [view_target_of_succeeded he, ho, Machine.next]
  case inr h =>
    obtain ⟨ho, he⟩ := h
    simp [view_target_of_succeeded he, ho, Machine.next]

-- A pool is bound by setting up the receiving side, and stays so until that is released.
theorem poolOf_target (h : t.target.poolOf q ≠ none) :
    t.SetsUpRx q ∨ ¬t.ReleasesRx q ∧ t.source.poolOf q ≠ none := by
  change t.target.view.pool q ≠ none at h
  change _ ∨ _ ∧ t.source.view.pool q ≠ none
  cases he : t.effect.succeeded
  case false =>
    rw [view_target_of_failed he] at h
    refine .inr ⟨?_, h⟩
    intro hr
    simp [effect, show t.call.op = .releaseRx q from hr, step, releaseRx_eq] at he
  case true =>
    rw [view_target_of_succeeded he] at h
    simp only [ReleasesRx]
    cases ho : t.call.op <;> simp only [ho, Machine.next] at h
    case setUpRx i pool pools =>
      by_cases hi : q = i
      case pos => exact .inl ⟨⟨pool, pools, hi ▸ ho⟩, he⟩
      case neg =>
        rw [Function.update_of_ne hi] at h
        exact .inr ⟨by simp, h⟩
    case releaseRx i =>
      by_cases hi : q = i
      case pos =>
        rw [hi, Function.update_self] at h
        exact absurd rfl h
      case neg =>
        rw [Function.update_of_ne hi] at h
        refine .inr ⟨?_, h⟩
        intro hr
        injection hr with hr
        exact hi hr.symm
    case stop | close | shutdown =>
      refine .inr ⟨by simp, ?_⟩
      split at h <;> exact h
    all_goals exact .inr ⟨by simp, h⟩

theorem Closes.call_or_phase (h : t.Closes q) :
    t.ReleasesRx q ∨ t.call.op = .releaseTx q ∨ t.call.op = .stop ∨ t.target.phase = .closed := by
  obtain ⟨hs, ht⟩ := h
  rw [← mem_opened] at hs
  replace ht : q ∉ t.target.view.opened := by simp [mem_opened, ht]
  change _ ∨ _ ∨ _ ∨ t.target.view.phase = .closed
  simp only [ReleasesRx]
  cases he : t.effect.succeeded
  case false => exact (ht (view_target_of_failed he ▸ hs)).elim
  case true =>
    rw [view_target_of_succeeded he] at ht ⊢
    cases ho : t.call.op <;> simp only [ho, Machine.next] at ht
    case stop => exact .inr (.inr (.inl rfl))
    case close | shutdown =>
      refine .inr (.inr (.inr ?_))
      simp only [Machine.next]
      split
      case isTrue h => exact h
      case isFalse => rfl
    case releaseRx i =>
      by_cases hi : q = i
      case pos => exact .inl (hi ▸ rfl)
      case neg => exact (ht (Finset.mem_erase_of_ne_of_mem hi hs)).elim
    case releaseTx i =>
      by_cases hi : q = i
      case pos => exact .inr (.inl (hi ▸ rfl))
      case neg => exact (ht (Finset.mem_erase_of_ne_of_mem hi hs)).elim
    case setUpRx | setUpTx => exact (ht (Finset.mem_insert_of_mem hs)).elim
    all_goals exact (ht hs).elim

-- A port that becomes stopped or closed gives up its queues as it does.
theorem opened_of_halting (ht : t.target.phase = .stopped ∨ t.target.phase = .closed)
    (hn : t.source.phase ≠ t.target.phase) : t.target.view.opened = ∅ := by
  change t.target.view.phase = _ ∨ t.target.view.phase = _ at ht
  change t.source.view.phase ≠ t.target.view.phase at hn
  cases he : t.effect.succeeded
  case false =>
    rw [view_target_of_failed he] at hn
    exact (hn rfl).elim
  case true =>
    rw [view_target_of_succeeded he] at ht hn ⊢
    cases ho : t.call.op <;> simp only [ho, Machine.next] at ht hn ⊢
    case configure | start => cases ht <;> contradiction
    case stop | close | shutdown =>
      split
      case isTrue h => simp [h] at hn
      case isFalse => rfl
    all_goals exact (hn rfl).elim

theorem SetsUp.phase_eq (h : t.SetsUp q) : t.target.phase = t.source.phase := by
  change t.target.view.phase = t.source.view.phase
  cases h
  case inl h =>
    obtain ⟨⟨pool, pools, ho⟩, he⟩ := h
    simp [view_target_of_succeeded he, ho, Machine.next]
  case inr h =>
    obtain ⟨ho, he⟩ := h
    simp [view_target_of_succeeded he, ho, Machine.next]

end Transition

-- A queue that was set up, and was not closed after that, is open.
theorem isOpen_of_since {p : Port κ} {calls : List (Call δ)} {q : Nat}
    (h : Since (¬·.Closes q) (·.SetsUp q) (p.trace calls)) :
    (p.run calls).queueIsOpen q = true := by
  induction calls using List.reverseRecOn
  case nil => exact (Since.not_nil h).elim
  case append_singleton calls c ih =>
    rw [trace_concat, Since.concat_iff] at h
    rw [run_concat]
    cases h
    case inl h => exact h.opens
    case inr h =>
      by_contra hq
      exact h.1 ⟨ih h.2, (Bool.not_eq_true _).mp hq⟩

end Port

end TapPort
