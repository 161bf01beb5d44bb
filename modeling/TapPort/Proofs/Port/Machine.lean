import Mathlib.Data.Finset.Basic
import TapPort.Proofs.Port.Course

namespace TapPort

namespace Port

variable {κ δ : Type} [Device δ κ]

@[ext]
structure Machine where
  phase : Phase
  opened : Finset Nat
  pool : Nat → Option PoolId

namespace Machine

-- What an operation that succeeds does to the machine.
def next (m : Machine) : Op → Machine
  | .configure _ => { m with phase := .configured }
  | .start => { m with phase := .started }
  | .stop => if m.phase = .stopped then m else { m with phase := .stopped, opened := ∅ }
  | .close | .shutdown =>
    if m.phase = .closed then m else { m with phase := .closed, opened := ∅ }
  | .setUpRx q pool _ =>
    { m with opened := insert q m.opened, pool := Function.update m.pool q (some pool) }
  | .setUpTx q => { m with opened := insert q m.opened }
  | .releaseRx q =>
    { m with opened := m.opened.erase q, pool := Function.update m.pool q none }
  | .releaseTx q => { m with opened := m.opened.erase q }
  | .resetStats | .rx .. | .tx .. => m

end Machine

def view (p : Port κ) : Machine where
  phase := p.phase
  opened := (Finset.range p.queueCount).filter fun q => p.queueIsOpen q
  pool := p.poolOf

section View

variable {p : Port κ} {q : Nat} {f : QueuePair κ → QueuePair κ}

theorem mem_opened : q ∈ p.view.opened ↔ p.queueIsOpen q = true := by
  simp only [view, Finset.mem_filter, Finset.mem_range, and_iff_right_iff_imp]
  intro h
  rw [queueIsOpen_eq_isSome, Option.isSome_iff_exists] at h
  obtain ⟨_, h⟩ := h
  exact lt_queueCount_of_handle? h

theorem opened_eq_empty : p.view.opened = ∅ ↔ p.handles = [] := by
  simp only [Finset.eq_empty_iff_forall_notMem, mem_opened, handles_eq_nil, Bool.not_eq_true]

theorem opened_congr {p' : Port κ} (h : ∀ i, p'.handle? i = p.handle? i) :
    p'.view.opened = p.view.opened := by
  ext i
  simp only [mem_opened, queueIsOpen_eq_isSome, h]

theorem opened_modifyQueue (hf : ∀ a, (f a).slot = a.slot) :
    (p.modifyQueue q f).view.opened = p.view.opened :=
  opened_congr fun _ => handle?_modifyQueue hf

theorem opened_opened {h : κ} (hq : q < p.queueCount) :
    (p.modifyQueue q (.opened h)).view.opened = insert q p.view.opened := by
  ext i
  simp only [mem_opened, queueIsOpen_eq_isSome, Finset.mem_insert]
  by_cases hi : i = q
  case pos => simp [hi, handle?_opened hq]
  case neg => simp [hi, handle?_modifyQueue_ne hi]

theorem opened_unset : (p.modifyQueue q .unset).view.opened = p.view.opened.erase q := by
  ext i
  simp only [mem_opened, queueIsOpen_eq_isSome, Finset.mem_erase]
  by_cases hi : i = q
  case pos => simp [hi]
  case neg => simp [hi, handle?_modifyQueue_ne hi]

theorem pool_modifyQueue (hf : ∀ a, (f a).pool = a.pool) :
    (p.modifyQueue q f).view.pool = p.view.pool := by
  funext i
  exact poolOf_modifyQueue hf

theorem pool_modifyQueue_update {b : Option PoolId} (h : (p.modifyQueue q f).poolOf q = b) :
    (p.modifyQueue q f).view.pool = Function.update p.view.pool q b := by
  funext i
  by_cases hi : i = q
  case pos => rw [hi, Function.update_self]; exact h
  case neg => rw [Function.update_of_ne hi]; exact poolOf_modifyQueue_ne hi

theorem view_counted (p : Port κ) (q : Nat) (c : QueueCounters) :
    (p.modifyQueue q (.counted c)).view = p.view :=
  Machine.ext rfl (opened_modifyQueue fun _ => rfl) (pool_modifyQueue fun _ => rfl)

theorem view_resetStats (p : Port κ) : p.resetStats.view = p.view := by
  ext1
  case phase => rfl
  case opened =>
    apply opened_congr
    intro i
    simp only [resetStats, handle?, List.getElem?_map]
    cases p.queues[i]? <;> rfl
  case pool =>
    funext i
    simp only [view, resetStats, poolOf, List.getElem?_map]
    cases p.queues[i]? <;> rfl

theorem view_halt (p : Port κ) (phase : Phase) (dev : δ) :
    (p.halt phase dev).1.view = { p.view with phase, opened := ∅ } := by
  ext1
  case phase => rw [halt_eq]; rfl
  case opened => exact opened_eq_empty.2 (handles_halt p phase dev)
  case pool =>
    funext i
    exact poolOf_halt p phase dev i

end View

section Setup

variable {p p' : Port κ} {q : Nat} {dev : δ}

theorem Opening.queueCount_eq {r : Except Error (Port κ) × δ} (o : Opening p q dev r)
    (hr : r.1 = .ok p') : p'.queueCount = p.queueCount := by
  cases o <;> cases hr
  case already => rfl
  case joined => exact queueCount_modifyQueue
  case identified => exact queueCount_modifyQueue

theorem Opening.view_eq {r : Except Error (Port κ) × δ} (o : Opening p q dev r)
    (hq : q < p.queueCount) (hr : r.1 = .ok p') :
    p'.view = { p.view with opened := insert q p.view.opened } := by
  cases o
  case already hi =>
    cases hr
    rw [Finset.insert_eq_of_mem (mem_opened.2 hi)]
  case joined =>
    cases hr
    exact Machine.ext rfl (opened_opened hq) (pool_modifyQueue fun _ => rfl)
  case identified mac ifIndex _ _ _ _ _ =>
    cases hr
    exact Machine.ext rfl (opened_opened (p := { p with mac, ifIndex }) hq)
      (pool_modifyQueue fun _ => rfl)
  case refused => cases hr
  case unidentified => cases hr

theorem Opening.view_setPool {r : Except Error (Port κ) × δ} (o : Opening p q dev r)
    (hq : q < p.queueCount) (hr : r.1 = .ok p') (pool : PoolId) :
    (p'.modifyQueue q (·.setPool pool)).view =
      { p.view with
        opened := insert q p.view.opened
        pool := Function.update p.view.pool q (some pool) } := by
  have hv := o.view_eq hq hr
  have hs : (p'.modifyQueue q (·.setPool pool)).poolOf q = some pool :=
    poolOf_setPool ((o.queueCount_eq hr).symm ▸ hq)
  ext1
  case phase =>
    change p'.view.phase = _
    rw [hv]
  case opened =>
    have ho := opened_modifyQueue (p := p') (q := q) (f := (·.setPool pool)) fun _ => rfl
    rw [ho, hv]
  case pool => rw [pool_modifyQueue_update hs, hv]

end Setup

theorem Course.view_eq {p : Port κ} {dev : δ} {op : Op} {e : Effect κ δ} (c : Course p dev op e) :
    e.port.view = if e.succeeded then p.view.next op else p.view := by
  have hphase : p.view.phase = p.phase := rfl
  cases c
  case refused | notOpened => simp
  case idle h =>
    cases h
    case start hp => simp [Machine.next, ← hp, ← hphase]
    all_goals simp_all [Machine.next]
  case configured | started => rfl
  case halted h =>
    cases h
    case stop hp => simp [Machine.next, hphase, hp, view_halt]
    all_goals simp_all [Machine.next, view_halt]
  case openedRx pool _ _ hq o => simp [o.view_setPool hq rfl pool, Machine.next]
  case openedTx hq o => simp [o.view_eq hq rfl, Machine.next]
  case releasedRx q =>
    have ho : ((p.modifyQueue q .unset).modifyQueue q .clearPool).view.opened =
        (p.modifyQueue q .unset).view.opened :=
      opened_modifyQueue fun _ => rfl
    simp only [Effect.succeeded_ok, if_true, Machine.next]
    ext1
    case phase => rfl
    case opened => rw [ho, opened_unset]
    case pool =>
      rw [pool_modifyQueue_update poolOf_clearPool, pool_modifyQueue (f := .unset) fun _ => rfl]
  case releasedTx => exact Machine.ext rfl opened_unset (pool_modifyQueue fun _ => rfl)
  case statsReset => exact view_resetStats p
  case received | sent => exact view_counted p _ _

-- What becomes of a port is decided by which operations succeed.
theorem view_step (p : Port κ) (dev : δ) (op : Op) :
    (p.step dev op).port.view = if (p.step dev op).succeeded then p.view.next op else p.view :=
  (p.step_course dev op).view_eq

end Port

end TapPort
