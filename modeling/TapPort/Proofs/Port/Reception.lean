import TapPort.Proofs.Port.Sound

namespace TapPort

namespace Port

variable {κ δ : Type} [Device δ κ]

-- That a queue is closed in a way that leaves its pool to it.
def Transition.LeavesPool (t : Transition κ δ) (q : Nat) : Prop :=
  t.Closes q ∧ (t.call.op = .releaseTx q ∨ t.call.op = .stop)

-- That a queue that was left its pool was opened again for its transmitting side alone.
def ReopenedForTx (q : Nat) (l : List (Transition κ δ)) : Prop :=
  ∃ before t between u after, l = before ++ t :: between ++ u :: after ∧
    t.LeavesPool q ∧ u.SetsUpTx q ∧ ∀ v ∈ between ++ u :: after, ¬v.SetsUpRx q

theorem ReopenedForTx.since {q : Nat} {l : List (Transition κ δ)} (h : ReopenedForTx q l) :
    Since (¬·.SetsUpRx q) (·.LeavesPool q) l := by
  obtain ⟨before, t, between, u, after, hl, ht, -, hv⟩ := h
  exact ⟨before, t, between ++ u :: after, by simpa using hl, ht, hv⟩

theorem ReopenedForTx.not_since {q : Nat} {l : List (Transition κ δ)} (h : ReopenedForTx q l) :
    ¬Since (¬·.Closes q) (·.SetsUpRx q) l := by
  intro hs
  obtain ⟨t, hu, hc⟩ := hs.crossed (h.since.mono fun _ hl => hl.1)
  have ht := Transition.SetsUp.opens (.inl hu)
  cases hc.2.symm.trans ht

section Run

variable {p₀ : Port κ} {calls : List (Call δ)} {q : Nat}

theorem bound_since (hm : Made δ p₀) (hb : (p₀.run calls).poolOf q ≠ none) :
    Since (¬·.ReleasesRx q) (·.SetsUpRx q) (p₀.trace calls) := by
  induction calls using List.reverseRecOn
  case nil => exact (hb (hm.poolOf_eq q)).elim
  case append_singleton calls c ih =>
    rw [run_concat] at hb
    rw [trace_concat, Since.concat_iff]
    cases Transition.poolOf_target (t := ⟨p₀.run calls, c⟩) hb
    case inl h => exact .inl h
    case inr h => exact .inr ⟨h.1, ih h.2⟩

-- A pool outlives the descriptor only where the queue is closed without giving up its receiving
-- side, and while the port is in use.
theorem bound_cases (hm : Made δ p₀) (hp : (p₀.run calls).phase ≠ .closed)
    (hb : (p₀.run calls).poolOf q ≠ none) :
    Since (¬·.Closes q) (·.SetsUpRx q) (p₀.trace calls) ∨
      Since (¬·.SetsUpRx q) (·.LeavesPool q) (p₀.trace calls) := by
  induction calls using List.reverseRecOn
  case nil => exact (hb (hm.poolOf_eq q)).elim
  case append_singleton calls c ih =>
    rw [run_concat] at hp hb
    rw [trace_concat, Since.concat_iff, Since.concat_iff]
    generalize ht : (⟨p₀.run calls, c⟩ : Transition κ δ) = t
    have hs : t.source = p₀.run calls := ht ▸ rfl
    have he : t.target = (p₀.run calls).after c := ht ▸ rfl
    by_cases hu : t.SetsUpRx q
    case pos => exact .inl (.inl hu)
    case neg =>
      obtain ⟨hr, hb⟩ := (Transition.poolOf_target (he ▸ hb)).resolve_left hu
      have hp' : (p₀.run calls).phase ≠ .closed := fun h => hp (phase_step_closed h c.dev c.op)
      cases ih hp' (hs ▸ hb)
      case inr h => exact .inr (.inr ⟨hu, h⟩)
      case inl h =>
        by_cases hc : t.Closes q
        case neg => exact .inl (.inr ⟨hc, h⟩)
        case pos =>
          refine .inr (.inl ⟨hc, ?_⟩)
          rcases hc.call_or_phase with h | h | h | h
          case inl => exact (hr h).elim
          case inr.inl => exact .inl h
          case inr.inr.inl => exact .inr h
          case inr.inr.inr => exact (hp (he ▸ h)).elim

theorem reopenedForTx (ho : (p₀.run calls).queueIsOpen q = true)
    (h : Since (¬·.SetsUpRx q) (·.LeavesPool q) (p₀.trace calls)) :
    ReopenedForTx q (p₀.trace calls) := by
  induction calls using List.reverseRecOn
  case nil => exact (Since.not_nil h).elim
  case append_singleton calls c ih =>
    rw [run_concat] at ho
    rw [trace_concat, Since.concat_iff] at h
    rw [trace_concat]
    generalize ht : (⟨p₀.run calls, c⟩ : Transition κ δ) = t at h ⊢
    have hs : t.source = p₀.run calls := ht ▸ rfl
    have he : t.target = (p₀.run calls).after c := ht ▸ rfl
    rw [← he] at ho
    cases h
    case inl h => cases h.1.2.symm.trans ho
    case inr h =>
      obtain ⟨hu, h⟩ := h
      cases hq : t.source.queueIsOpen q
      case false =>
        have hx := (Transition.setsUp_of_opens hq ho).resolve_left hu
        obtain ⟨before, a, between, hl, ha, hv⟩ := h
        refine ⟨before, a, between, t, [], by simp [hl], ha, hx, ?_⟩
        intro v hm
        cases List.mem_append.1 hm
        case inl hm => exact hv v hm
        case inr hm => exact List.mem_singleton.1 hm ▸ hu
      case true =>
        obtain ⟨before, a, between, u, after, hl, ha, hx, hv⟩ := ih (hs ▸ hq) h
        refine ⟨before, a, between, u, after ++ [t], by simp [hl], ha, hx, ?_⟩
        intro v hm
        rw [← List.cons_append, ← List.append_assoc] at hm
        cases List.mem_append.1 hm
        case inl hm => exact hv v hm
        case inr hm => exact List.mem_singleton.1 hm ▸ hu

theorem enabled_of_receives {p : Port κ} {n : Nat} {bs : List Buffer} {dev : δ} {pools : Pools}
    (h : 0 < (p.rx q bs n dev pools).count) : p.poolOf q ≠ none ∧ p.queueIsOpen q = true := by
  rw [queueIsOpen_eq_isSome]
  unfold rx burst at h
  unfold poolOf handle?
  cases hq : p.queues[q]?
  case none => simp [hq] at h
  case some pair =>
    simp only [hq, Burst.rx] at h
    split at h
    case h_1 hp hs => simp [hp, hs]
    case h_2 => exact (Nat.lt_irrefl 0 h).elim

-- Where a queue receives, its receiving side was set up and not given up since. If the queue was
-- not set up for receiving after it was closed last, it was left its pool then, and was opened
-- again for its transmitting side alone.
theorem setsUpRx_of_receives {n : Nat} {bs : List Buffer} {dev : δ} {pools : Pools}
    (hm : Made δ p₀) (h : 0 < ((p₀.run calls).rx q bs n dev pools).count) :
    Since (¬·.ReleasesRx q) (·.SetsUpRx q) (p₀.trace calls) ∧
      (Since (¬·.Closes q) (·.SetsUpRx q) (p₀.trace calls) ↔
        ¬ReopenedForTx q (p₀.trace calls)) := by
  obtain ⟨hb, ho⟩ := enabled_of_receives h
  have hp : (p₀.run calls).phase ≠ .closed := by
    intro hp
    have hq := handles_eq_nil.1 ((hm.sound_run calls).closed hp) q
    cases hq.symm.trans ho
  refine ⟨bound_since hm hb, ?_⟩
  constructor
  case mp => exact fun hs hr => hr.not_since hs
  case mpr =>
    intro hr
    exact (bound_cases hm hp hb).resolve_right fun h => hr (reopenedForTx ho h)

end Run

-- A pool for the calls below, and a device where a frame waits for the second queue opened.
def solePools : Pools := [Pool.ofCapacity "m" 2 (headroom + Frame.receiveRoom)]

def soleWaiting : MemoryTap := { soleDevice with rings := [⟨2, [[1]]⟩] }

-- The transmitting side of a queue is given up and set up again, and the queue receives.
theorem setsUpRx_of_receives_sole :
    let calls := alone sole soleDevice [.setUpRx 0 0 solePools, .releaseTx 0, .setUpTx 0]
    Made MemoryTap sole ∧ ((sole.run calls).rx 0 [] 8 soleWaiting solePools).count = 1 ∧
      Since (¬·.ReleasesRx 0) (·.SetsUpRx 0) (sole.trace calls) := by
  intro calls
  have hc : ((sole.run calls).rx 0 [] 8 soleWaiting solePools).count = 1 := by decide +kernel
  exact ⟨made_sole, hc, (setsUpRx_of_receives made_sole (hc ▸ Nat.one_pos)).1⟩

-- That a queue receives only if it was set up for it after it was closed last is not so.
theorem not_setsUpRx_since_closed :
    ¬∀ (p₀ : Port Nat) (calls : List (Call MemoryTap)) (q n : Nat) (bs : List Buffer)
      (dev : MemoryTap) (pools : Pools),
      Made MemoryTap p₀ → 0 < ((p₀.run calls).rx q bs n dev pools).count →
        Since (¬·.Closes q) (·.SetsUpRx q) (p₀.trace calls) := by
  intro h
  let calls := alone sole soleDevice [.setUpRx 0 0 solePools, .releaseTx 0, .setUpTx 0]
  have hs := h sole calls 0 8 [] soleWaiting solePools made_sole (by decide +kernel)
  have hr : ReopenedForTx 0 (sole.trace calls) := by
    refine ⟨[_], _, [], _, [], rfl, ⟨⟨rfl, rfl⟩, .inl rfl⟩, ⟨rfl, rfl⟩, ?_⟩
    intro v hv
    obtain rfl := List.mem_singleton.1 hv
    rintro ⟨⟨_, _, ho⟩, _⟩
    cases ho
  exact hr.not_since hs

end Port

end TapPort
