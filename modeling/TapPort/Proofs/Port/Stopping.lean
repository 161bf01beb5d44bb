import TapPort.Proofs.Port.Sound

namespace TapPort

namespace Port

variable {κ δ : Type} [Device δ κ]

-- That a queue was set up while the port was stopped, and was not closed since.
def SetUpWhileStopped (q : Nat) : List (Transition κ δ) → Prop :=
  Since (¬·.Closes q) fun t => t.SetsUp q ∧ t.source.phase = .stopped

-- The induction is on the run from its end. The last transition either set the queue up, or found
-- it open; in a port that came to a halt just then it would be closed.
theorem setUpWhileStopped {p₀ : Port κ} {calls : List (Call δ)} {q : Nat} (hm : Made δ p₀)
    (hp : (p₀.run calls).phase = .stopped) (hq : (p₀.run calls).queueIsOpen q = true) :
    SetUpWhileStopped q (p₀.trace calls) := by
  induction calls using List.reverseRecOn
  case nil =>
    obtain ⟨_, _, _, _, _, _, _, rfl, _⟩ := hm.exists_initial
    cases hp
  case append_singleton calls c ih =>
    rw [SetUpWhileStopped, trace_concat, Since.concat_iff]
    rw [run_concat] at hp hq
    generalize ht : (⟨p₀.run calls, c⟩ : Transition κ δ) = t
    have hs : t.source = p₀.run calls := ht ▸ rfl
    have he : t.target = (p₀.run calls).after c := ht ▸ rfl
    rw [← he] at hp hq
    cases ho : t.source.queueIsOpen q
    case false =>
      have hu := Transition.setsUp_of_opens ho hq
      exact .inl ⟨hu, hu.phase_eq.symm.trans hp⟩
    case true =>
      have hn : t.source.phase = .stopped := by
        by_contra hn
        have hz := Transition.opened_of_halting (.inl hp) (hp.symm ▸ hn)
        rw [← mem_opened, hz] at hq
        exact Finset.notMem_empty _ hq
      rw [hs] at hn ho
      have hc : ¬t.Closes q := fun hc => by simp [hc.2] at hq
      exact .inr ⟨hc, ih hn ho⟩

-- Where stopping succeeds, the port is stopped and its link is down. It has an open queue only if
-- it was stopped already, in which case nothing is closed: these are the queues set up meanwhile.
theorem queues_of_stop {p₀ p : Port κ} {calls : List (Call δ)} {dev dev' : δ} (hm : Made δ p₀)
    (hs : (p₀.run calls).stop dev = .ok (p, dev')) :
    p.phase = .stopped ∧ p.link.state = .down ∧
      (p.openCount = 0 ↔
        ¬((p₀.run calls).phase = .stopped ∧ ∃ q, SetUpWhileStopped q (p₀.trace calls))) ∧
      ∀ q, p.queueIsOpen q = true ↔
        (p₀.run calls).phase = .stopped ∧ SetUpWhileStopped q (p₀.trace calls) := by
  have hq : p.phase = .stopped ∧ p.link.state = .down ∧ ∀ q, p.queueIsOpen q = true ↔
      (p₀.run calls).phase = .stopped ∧ SetUpWhileStopped q (p₀.trace calls) := by
    rcases (p₀.run calls).stop_cases dev with ⟨e, h⟩ | ⟨hp, h⟩ | ⟨hp, h⟩
    case inl => cases h.symm.trans hs
    case inr.inl =>
      cases h.symm.trans hs
      have hl := mt (hm.sound_run calls).link.1 (by simp [hp])
      refine ⟨hp, ?_, ?_⟩
      case refine_1 => cases hd : (p₀.run calls).link.state <;> simp_all
      case refine_2 =>
        intro q
        constructor
        case mp => exact fun ho => ⟨hp, setUpWhileStopped hm hp ho⟩
        case mpr => exact fun ho => isOpen_of_since (ho.2.mono fun _ hu => hu.1)
    case inr.inr =>
      obtain rfl := congrArg Prod.fst (Except.ok.inj (h.symm.trans hs))
      refine ⟨by rw [halt_eq], by rw [halt_eq], ?_⟩
      intro q
      simp [handles_eq_nil.1 (handles_halt (p₀.run calls) .stopped dev) q, hp]
  refine ⟨hq.1, hq.2.1, ?_, hq.2.2⟩
  rw [openCount_eq_zero, handles_eq_nil]
  simp only [← Bool.not_eq_true, hq.2.2]
  tauto

-- A port is stopped, its queue is set up again, and the port is told to stop once more.
theorem queues_of_stop_sole :
    let calls := alone sole soleDevice [.configure ⟨1, 1⟩, .start, .stop, .setUpTx 0]
    Made MemoryTap sole ∧
      (sole.run calls).stop soleDevice = .ok (sole.run calls, soleDevice) ∧
      (sole.run calls).openCount = 1 ∧ SetUpWhileStopped 0 (sole.trace calls) := by
  intro calls
  have hs : (sole.run calls).stop soleDevice = .ok (sole.run calls, soleDevice) := rfl
  have hq := (queues_of_stop made_sole hs).2.2.2 0
  exact ⟨made_sole, hs, rfl, (hq.1 rfl).2⟩

-- That a port has no open queue whenever it says that it stopped is not so.
theorem not_closed_of_stop :
    ¬∀ (p₀ p : Port Nat) (calls : List (Call MemoryTap)) (dev dev' : MemoryTap),
      Made MemoryTap p₀ → (p₀.run calls).stop dev = .ok (p, dev') →
        p.openCount = 0 ∧ p.link.state = .down ∧ p.phase = .stopped := by
  intro h
  let calls := alone sole soleDevice [.configure ⟨1, 1⟩, .start, .stop, .setUpTx 0]
  have hz := (h sole (sole.run calls) calls soleDevice soleDevice made_sole rfl).1
  exact absurd hz (by decide)

end Port

end TapPort
