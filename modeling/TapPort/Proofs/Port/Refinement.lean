import Mathlib.Data.Finset.Card
import TapPort.Proofs.Port.Sound

namespace TapPort

theorem Phase.mem_all (phase : Phase) : phase ∈ all := by
  cases phase <;> decide

namespace Port

variable {κ δ : Type}

-- The phases in which an operation is taken; in all others it is refused for the phase.
def Op.phases : Op → List Phase
  | .configure _ => [.created, .configured, .stopped]
  | .start => [.configured, .started, .stopped]
  | .stop => [.started, .stopped]
  | .close | .setUpRx .. | .setUpTx _ => [.created, .configured, .started, .stopped]
  | _ => Phase.all

namespace Machine

def initial : Machine := ⟨.created, {0}, fun _ => none⟩

-- The steps of the machine, with their answers. Only setting up a queue may fail where it is taken.
inductive Step (m : Machine) (op : Op) : Except Error Nat → Machine → Prop
  | done (n : Nat) : m.phase ∈ op.phases → Step m op (.ok n) (m.next op)
  | misplaced : m.phase ∉ op.phases → Step m op (.error (.badState m.phase)) m
  | failed {q : Nat} (e : Error) : op.Opens q → m.phase ∈ op.phases → Step m op (.error e) m

-- The runs of the machine, with the operations and their answers in order.
inductive Run (m : Machine) : List (Op × Except Error Nat) → Machine → Prop
  | start : Run m [] m
  | step {answers m' op result m''} :
    Run m answers m' → Step m' op result m'' → Run m (answers ++ [(op, result)]) m''

end Machine

section Step

variable [Device δ κ] {p : Port κ} {dev : δ} {op : Op}

section Expect

variable {α : Type} {phases : List Phase} {f : Unit → Except Error α}

theorem expect_bind_of_mem (h : p.phase ∈ phases) : (p.expect phases >>= f) = f () := by
  simp [expect, h, bind, Except.bind]

theorem expect_bind_of_not_mem (h : p.phase ∉ phases) :
    (p.expect phases >>= f) = .error (.badState p.phase) := by
  simp [expect, h, bind, Except.bind]

end Expect

theorem step_misplaced (h : p.phase ∉ op.phases) :
    p.step dev op = ⟨.error (.badState p.phase), p, dev⟩ := by
  cases op <;> simp only [Op.phases] at h
  case configure => simp [step, configure, expect_bind_of_not_mem h]
  case start =>
    have hs : p.phase ≠ .started := by grind
    have hn : p.phase ∉ [.configured, .stopped] := by grind
    simp [step, start, hs, expect_bind_of_not_mem hn]
  case stop =>
    have hs : p.phase ≠ .stopped := by grind
    have hn : p.phase ∉ [.started] := by grind
    simp [step, stop, hs, expect_bind_of_not_mem hn]
  case close => simp [step, close, expect_bind_of_not_mem h]
  case setUpRx => simp [step, setUpRx, checkSetup, expect_bind_of_not_mem h]
  case setUpTx => simp [step, setUpTx, checkSetup, expect_bind_of_not_mem h]
  all_goals exact (h (Phase.mem_all _)).elim

-- Where it is taken, an operation of the life of a port succeeds whatever the device does.
theorem opens_of_failed {e : Error} (h : p.phase ∈ op.phases)
    (hr : (p.step dev op).result = .error e) : ∃ q, op.Opens q := by
  cases op <;> simp only [Op.phases] at h
  case setUpRx q pool pools => exact ⟨q, .setUpRx pool pools⟩
  case setUpTx q => exact ⟨q, .setUpTx⟩
  case configure =>
    rw [step, configure, expect_bind_of_mem h] at hr
    cases hr
  case start =>
    by_cases hs : p.phase = .started
    case pos => simp [step, start, hs] at hr
    case neg =>
      have hm : p.phase ∈ [.configured, .stopped] := by grind
      rw [step, start, if_neg hs, expect_bind_of_mem hm] at hr
      cases hr
  case stop =>
    by_cases hs : p.phase = .stopped
    case pos => simp [step, stop, hs] at hr
    case neg =>
      have hm : p.phase ∈ [.started] := by grind
      rw [step, stop, if_neg hs, expect_bind_of_mem hm] at hr
      cases hr
  case close =>
    rw [step, close, expect_bind_of_mem h] at hr
    cases hr
  all_goals cases hr

-- An operation that is refused, for whatever reason, changes nothing of the port.
theorem Course.port_of_failed {e : Effect κ δ} (c : Course p dev op e)
    (h : e.succeeded = false) : e.port = p := by
  cases c
  case refused | notOpened => rfl
  all_goals simp at h

theorem port_of_failed (h : (p.step dev op).succeeded = false) : (p.step dev op).port = p :=
  (p.step_course dev op).port_of_failed h

theorem step_machine (p : Port κ) (dev : δ) (op : Op) :
    p.view.Step op (p.step dev op).result (p.step dev op).port.view := by
  rw [p.view_step dev op, Effect.succeeded]
  by_cases h : p.phase ∈ op.phases
  case pos =>
    cases hr : (p.step dev op).result
    case error e =>
      have ⟨_, ho⟩ := opens_of_failed h hr
      exact .failed e ho h
    case ok n => exact .done n h
  case neg =>
    rw [step_misplaced h]
    exact .misplaced h

end Step

section Run

variable [Device δ κ]

-- The operations of a run with their answers.
def answers (p : Port κ) (calls : List (Call δ)) : List (Op × Except Error Nat) :=
  (p.trace calls).map fun t => (t.call.op, t.effect.result)

theorem answers_concat (p : Port κ) (calls : List (Call δ)) (c : Call δ) :
    p.answers (calls ++ [c]) =
      p.answers calls ++ [(c.op, ((p.run calls).step c.dev c.op).result)] := by
  simp [answers, trace_concat, Transition.effect]

theorem run_machine (p : Port κ) (calls : List (Call δ)) :
    p.view.Run (p.answers calls) (p.run calls).view := by
  induction calls using List.reverseRecOn
  case nil => exact .start
  case append_singleton calls c ih =>
    rw [answers_concat, run_concat]
    exact ih.step (step_machine ..)

-- A port that was made has its first queue open, and receives nowhere.
theorem Made.view_eq {p : Port κ} (hm : Made δ p) : p.view = .initial := by
  have hp := hm.poolOf_eq
  obtain ⟨name, iface, id, args, mac, ifIndex, h, rfl, hv⟩ := hm.exists_initial
  let bare : Port κ := { initial name iface id args mac ifIndex h with
    queues := (List.range args.queues.toNat).map fun i => QueuePair.ofIndex i id }
  have hn : bare.handles = [] := by
    simp only [bare, handles, List.filterMap_map]
    exact List.filterMap_eq_nil_iff.2 fun _ _ => rfl
  ext1
  case phase => rfl
  case opened =>
    have ho : (bare.modifyQueue 0 (.opened h)).view.opened = insert 0 bare.view.opened :=
      opened_opened (by simpa [bare, queueCount] using queues_pos_of_validate hv)
    rw [opened_eq_empty.2 hn] at ho
    exact ho
  case pool => exact funext hp

end Run

section Reports

variable {p p' : Port κ}

-- That all that a port shows of its state is that of the machine.
structure Reports (p : Port κ) (m : Machine) : Prop where
  phase : p.phase = m.phase
  queueIsOpen : ∀ q, p.queueIsOpen q = true ↔ q ∈ m.opened
  openCount : p.openCount = m.opened.card
  poolOf : ∀ q, p.poolOf q = m.pool q
  link : p.link.isUp = true ↔ m.phase = .started
  info : p.info.phase = m.phase ∧ p.info.openQueues.toNat = m.opened.card ∧ p.info.link = p.link

-- That what a port was made with is the same.
structure Alike (p p' : Port κ) : Prop where
  name : p'.name = p.name
  iface : p'.iface = p.iface
  id : p'.id = p.id
  numaNode : p'.numaNode = p.numaNode
  queueCount : p'.queueCount = p.queueCount
  speed : p'.link.speed = p.link.speed
  duplex : p'.link.duplex = p.link.duplex
  autoneg : p'.link.autoneg = p.link.autoneg

theorem countP_eq_card {α : Type} (l : List α) (f : α → Bool) :
    ((Finset.range l.length).filter fun i => (l[i]?.map f).getD false).card = l.countP f := by
  induction l using List.reverseRecOn
  case nil => rfl
  case append_singleton l a ih =>
    have hl : ∀ i ∈ Finset.range l.length, (((l ++ [a])[i]?.map f).getD false = true ↔
        (l[i]?.map f).getD false = true) := by
      intro i hi
      rw [List.getElem?_append_left (Finset.mem_range.1 hi)]
    rw [List.length_append, List.length_singleton, Finset.range_add_one, Finset.filter_insert,
      Finset.filter_congr hl, List.countP_append, List.countP_singleton]
    cases ha : f a
    case false => simp [ha, ih]
    case true => simp [ha, ih]

theorem card_opened (p : Port κ) : p.view.opened.card = p.openCount :=
  countP_eq_card p.queues QueuePair.isOpen

theorem Alike.refl (p : Port κ) : p.Alike p := ⟨rfl, rfl, rfl, rfl, rfl, rfl, rfl, rfl⟩

theorem Alike.trans {p₁ p₂ p₃ : Port κ} (h : p₁.Alike p₂) (h' : p₂.Alike p₃) : p₁.Alike p₃ where
  name := h'.name.trans h.name
  iface := h'.iface.trans h.iface
  id := h'.id.trans h.id
  numaNode := h'.numaNode.trans h.numaNode
  queueCount := h'.queueCount.trans h.queueCount
  speed := h'.speed.trans h.speed
  duplex := h'.duplex.trans h.duplex
  autoneg := h'.autoneg.trans h.autoneg

variable [Device δ κ]

theorem Course.queueCount_eq {dev : δ} {op : Op} {e : Effect κ δ} (c : Course p dev op e) :
    e.port.queueCount = p.queueCount := by
  cases c
  case halted => simp [halt_eq, queueCount]
  case openedRx o => simp [o.queueCount_eq rfl]
  case openedTx o => exact o.queueCount_eq rfl
  case statsReset => simp [resetStats, queueCount]
  all_goals simp [queueCount, modifyQueue]

theorem alike_step (p : Port κ) (dev : δ) (op : Op) : p.Alike (p.step dev op).port := by
  have hq := (p.step_course dev op).queueCount_eq
  have ⟨_, _, _, _, _, _, hp⟩ := p.step_frame dev op
  rw [hp] at hq ⊢
  exact ⟨rfl, rfl, rfl, rfl, hq, rfl, rfl, rfl⟩

theorem alike_run (p : Port κ) (calls : List (Call δ)) : p.Alike (p.run calls) := by
  induction calls using List.reverseRecOn
  case nil => exact .refl p
  case append_singleton calls c ih =>
    rw [run_concat]
    exact ih.trans (alike_step ..)

theorem Made.queueCount_le (hm : Made δ p) : p.queueCount ≤ maxQueues := by
  obtain ⟨_, _, _, _, _, _, _, rfl, hv⟩ := hm.exists_initial
  simpa [queueCount, initial] using (queues_of_validate hv).2

theorem Made.reports_run (hm : Made δ p) (calls : List (Call δ)) :
    (p.run calls).Reports (p.run calls).view where
  phase := rfl
  queueIsOpen _ := mem_opened.symm
  openCount := (card_opened _).symm
  poolOf _ := rfl
  link := by
    rw [Link.isUp, beq_iff_eq]
    exact (hm.sound_run calls).link
  info := by
    refine ⟨rfl, ?_, rfl⟩
    have hc := (p.alike_run calls).queueCount
    have hq := hm.queueCount_le
    have ho : (p.run calls).openCount ≤ (p.run calls).queueCount := List.countP_le_length
    rw [card_opened]
    exact UInt16.toNat_ofNat_of_lt' (by grind [maxQueues])

end Reports

-- Whatever the device does at each operation, a port goes as the machine does, and shows the state
-- that the machine is in. An operation that is refused leaves the port as it is, what the port was
-- made with never changes, and once closed it is closed for good and has no open queue.
theorem refines_of_run [Device δ κ] {p : Port κ} (hm : Made δ p) (calls : List (Call δ)) :
    (∃ m, Machine.initial.Run (p.answers calls) m ∧ (p.run calls).Reports m) ∧
      (∀ t ∈ p.trace calls, t.effect.succeeded = false → t.target = t.source) ∧
      p.Alike (p.run calls) ∧
      ((p.run calls).phase = .closed →
        ∀ calls', (p.run (calls ++ calls')).phase = .closed ∧
          (p.run (calls ++ calls')).openCount = 0) := by
  refine ⟨⟨(p.run calls).view, ?_, hm.reports_run calls⟩, ?_, p.alike_run calls, ?_⟩
  case refine_1 => exact hm.view_eq ▸ p.run_machine calls
  case refine_2 => exact fun t _ h => port_of_failed h
  case refine_3 =>
    intro hc calls'
    have hr : p.run (calls ++ calls') = (p.run calls).run calls' := by simp [run]
    have hp := phase_run_closed hc calls'
    rw [← hr] at hp
    exact ⟨hp, openCount_eq_zero.2 ((hm.sound_run _).closed hp)⟩

-- A port that runs is not configured, and one that was stopped opens its queue again and keeps the
-- pool of that queue.
theorem refines_of_run_sole :
    let pools := [Pool.ofCapacity "m" 0 (headroom + Frame.receiveRoom)]
    let calls := alone sole soleDevice
      [.configure ⟨1, 1⟩, .start, .setUpRx 0 0 pools, .configure ⟨1, 1⟩, .stop, .setUpTx 0]
    Made MemoryTap sole ∧ ∃ m, Machine.initial.Run (sole.answers calls) m ∧
      m.phase = .stopped ∧ 0 ∈ m.opened ∧ m.pool 0 = some 0 := by
  intro pools calls
  have ⟨⟨m, hr, hm⟩, _⟩ := refines_of_run made_sole calls
  have hp : (sole.run calls).phase = .stopped := by decide +kernel
  have ho : (sole.run calls).queueIsOpen 0 = true := by decide +kernel
  have hb : (sole.run calls).poolOf 0 = some 0 := by decide +kernel
  exact ⟨made_sole, m, hr, hm.phase.symm.trans hp, (hm.queueIsOpen 0).1 ho,
    (hm.poolOf 0).symm.trans hb⟩

end Port

end TapPort
