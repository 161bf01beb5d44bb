import TapPort.Port.Queues
import TapPort.Proofs.Lists

namespace TapPort

variable {κ δ : Type} [Device δ κ]

-- Gives back descriptors in order.
def Device.closeAll (hs : List κ) (dev : δ) : δ := hs.foldl (fun dev h => Device.close h dev) dev

namespace QueuePair

def unset (q : QueuePair κ) : QueuePair κ := { q with slot := .unset }

def opened (h : κ) (q : QueuePair κ) : QueuePair κ := { q with slot := .opened h }

def counted (c : QueueCounters) (q : QueuePair κ) : QueuePair κ := { q with counters := c }

end QueuePair

namespace Port

-- The descriptor of queue `q`, if that is open.
def handle? (p : Port κ) (q : Nat) : Option κ := p.queues[q]?.bind (·.slot.get?)

-- The descriptors of all open queues in order.
def handles (p : Port κ) : List κ := p.queues.filterMap (·.slot.get?)

-- The pool that queue `q` receives into.
def poolOf (p : Port κ) (q : Nat) : Option PoolId := p.queues[q]?.bind (·.pool)

def modifyQueue (p : Port κ) (q : Nat) (f : QueuePair κ → QueuePair κ) : Port κ :=
  { p with queues := p.queues.modify q f }

section Views

variable {p : Port κ} {q i : Nat}

theorem queueIsOpen_eq_isSome : p.queueIsOpen q = (p.handle? q).isSome := by
  simp only [queueIsOpen, handle?]
  cases p.queues[q]? <;> rfl

theorem queueIsOpen_eq_false : p.queueIsOpen q = false ↔ p.handle? q = none := by
  rw [queueIsOpen_eq_isSome, Option.isSome_eq_false_iff, Option.isNone_iff_eq_none]

theorem openCount_eq_length : p.openCount = p.handles.length := by
  simp only [openCount, handles, List.countP_eq_length_filter, List.length_filterMap_eq_countP]
  rfl

theorem openCount_eq_zero : p.openCount = 0 ↔ p.handles = [] := by
  rw [openCount_eq_length, List.length_eq_zero_iff]

theorem openCount_pos : 0 < p.openCount ↔ p.handles ≠ [] := by
  rw [Nat.pos_iff_ne_zero, ne_eq, openCount_eq_zero]

theorem mem_handles {h : κ} : h ∈ p.handles ↔ ∃ q, p.handle? q = some h := by
  simp only [handles, handle?, List.mem_filterMap, Option.bind_eq_some_iff]
  constructor
  case mp =>
    rintro ⟨pair, hp, hs⟩
    obtain ⟨q, hq⟩ := List.mem_iff_getElem?.1 hp
    exact ⟨q, pair, hq, hs⟩
  case mpr =>
    rintro ⟨q, pair, hq, hs⟩
    exact ⟨pair, List.mem_of_getElem? hq, hs⟩

theorem handles_eq_nil : p.handles = [] ↔ ∀ q, p.queueIsOpen q = false := by
  simp only [queueIsOpen_eq_false]
  constructor
  case mp =>
    intro hn q
    by_contra hq
    obtain ⟨h, hh⟩ := Option.ne_none_iff_exists'.1 hq
    exact List.not_mem_nil (hn ▸ mem_handles.2 ⟨q, hh⟩)
  case mpr =>
    intro hn
    apply List.eq_nil_iff_forall_not_mem.2
    intro h hm
    obtain ⟨q, hq⟩ := mem_handles.1 hm
    cases (hn q).symm.trans hq

theorem lt_queueCount_of_handle? {h : κ} (hq : p.handle? q = some h) : q < p.queueCount := by
  obtain ⟨_, hp, _⟩ := Option.bind_eq_some_iff.1 hq
  exact (List.getElem?_eq_some_iff.1 hp).1

end Views

section Modify

variable {p : Port κ} {q i : Nat} {f : QueuePair κ → QueuePair κ}

theorem modifyQueue_of_le (hq : p.queueCount ≤ q) : p.modifyQueue q f = p := by
  simp [modifyQueue, List.modify_eq_self hq]

@[simp]
theorem queueCount_modifyQueue : (p.modifyQueue q f).queueCount = p.queueCount := by
  simp [queueCount, modifyQueue]

theorem handle?_of_le (hq : p.queueCount ≤ q) : p.handle? q = none := by
  simp [handle?, List.getElem?_eq_none_iff.2 hq]

theorem handle?_modifyQueue_ne (h : i ≠ q) : (p.modifyQueue q f).handle? i = p.handle? i := by
  simp [handle?, modifyQueue, Ne.symm h]

theorem poolOf_modifyQueue_ne (h : i ≠ q) : (p.modifyQueue q f).poolOf i = p.poolOf i := by
  simp [poolOf, modifyQueue, Ne.symm h]

theorem handle?_modifyQueue (hf : ∀ a, (f a).slot = a.slot) :
    (p.modifyQueue q f).handle? i = p.handle? i := by
  simp only [handle?, modifyQueue, List.getElem?_modify]
  cases p.queues[i]? <;> simp
  split <;> simp [hf]

theorem poolOf_modifyQueue (hf : ∀ a, (f a).pool = a.pool) :
    (p.modifyQueue q f).poolOf i = p.poolOf i := by
  simp only [poolOf, modifyQueue, List.getElem?_modify]
  cases p.queues[i]? <;> simp
  split <;> simp [hf]

@[simp]
theorem handle?_unset : (p.modifyQueue q .unset).handle? q = none := by
  simp only [handle?, modifyQueue, List.getElem?_modify_eq]
  cases p.queues[q]? <;> rfl

theorem handle?_opened {h : κ} (hq : q < p.queueCount) :
    (p.modifyQueue q (.opened h)).handle? q = some h := by
  simp [handle?, modifyQueue, List.getElem?_eq_getElem hq, QueuePair.opened, Slot.get?]

theorem poolOf_setPool {pool : PoolId} (hq : q < p.queueCount) :
    (p.modifyQueue q (·.setPool pool)).poolOf q = some pool := by
  simp [poolOf, modifyQueue, List.getElem?_eq_getElem hq, QueuePair.setPool]

@[simp]
theorem poolOf_clearPool : (p.modifyQueue q .clearPool).poolOf q = none := by
  simp only [poolOf, modifyQueue, List.getElem?_modify_eq]
  cases p.queues[q]? <;> rfl

-- The descriptors of all queues but `q`.
def otherHandles (p : Port κ) (q : Nat) : List κ :=
  (p.queues.eraseIdx q).filterMap (·.slot.get?)

theorem handles_perm (p : Port κ) (q : Nat) :
    p.handles.Perm ((p.handle? q).toList ++ p.otherHandles q) := by
  have hp := (perm_eraseIdx p.queues q).filterMap (·.slot.get?)
  have hs : p.queues[q]?.toList.filterMap (·.slot.get?) = (p.handle? q).toList := by
    rw [handle?]
    cases p.queues[q]?
    case none => rfl
    case some pair => cases h : pair.slot.get? <;> simp [h]
  rwa [List.filterMap_append, hs] at hp

theorem handle?_ne (hn : p.handles.Nodup) (hq : i ≠ q) {x y : κ} (hi : p.handle? i = some x)
    (hs : p.handle? q = some y) : x ≠ y := by
  rintro rfl
  rw [(p.handles_perm i).nodup_iff, hi] at hn
  apply (List.nodup_cons.1 hn).1
  have ⟨j, hj, hs⟩ := Option.bind_eq_some_iff.1 hs
  exact List.mem_filterMap.2 ⟨j, List.mem_eraseIdx_iff_getElem?.2 ⟨q, hq.symm, hj⟩, hs⟩

@[simp]
theorem otherHandles_modifyQueue : (p.modifyQueue q f).otherHandles q = p.otherHandles q := by
  simp only [otherHandles, modifyQueue, List.eraseIdx_modify_of_eq]

theorem handles_unset_perm (p : Port κ) (q : Nat) :
    p.handles.Perm ((p.handle? q).toList ++ (p.modifyQueue q .unset).handles) := by
  have hu := handles_perm (p.modifyQueue q .unset) q
  rw [handle?_unset, otherHandles_modifyQueue] at hu
  exact (p.handles_perm q).trans (hu.symm.append_left _)

theorem handles_opened_perm {h : κ} (hq : q < p.queueCount) (hn : p.handle? q = none) :
    (p.modifyQueue q (.opened h)).handles.Perm (h :: p.handles) := by
  have ho := handles_perm (p.modifyQueue q (.opened h)) q
  rw [handle?_opened hq, otherHandles_modifyQueue] at ho
  have hp := p.handles_perm q
  rw [hn] at hp
  exact ho.trans (hp.symm.cons h)

theorem handles_modifyQueue (hf : ∀ a, (f a).slot = a.slot) :
    (p.modifyQueue q f).handles = p.handles := by
  have hs := map_modify hf p.queues q
  have hg (qs : List (QueuePair κ)) :
      qs.filterMap (·.slot.get?) = (qs.map (·.slot)).filterMap Slot.get? := by
    rw [List.filterMap_map]
    rfl
  rw [handles, modifyQueue, hg, hs, ← hg, handles]

theorem handles_setPool (pool : PoolId) :
    (p.modifyQueue q (·.setPool pool)).handles = p.handles :=
  handles_modifyQueue fun _ => rfl

theorem handles_clearPool : (p.modifyQueue q .clearPool).handles = p.handles :=
  handles_modifyQueue fun _ => rfl

theorem handles_counted (c : QueueCounters) :
    (p.modifyQueue q (.counted c)).handles = p.handles :=
  handles_modifyQueue fun _ => rfl

theorem handles_resetStats : p.resetStats.handles = p.handles := by
  simp only [resetStats, handles, List.filterMap_map]
  rfl

end Modify

section Closing

theorem closeQueues_eq (qs : List (QueuePair κ)) (dev : δ) :
    closeQueues qs dev =
      (qs.map .unset, Device.closeAll (qs.filterMap (·.slot.get?)) dev) := by
  induction qs generalizing dev
  case nil => rfl
  case cons q rest ih =>
    simp only [closeQueues, QueuePair.close, ih, List.map_cons]
    cases hs : q.slot <;> simp [hs, Slot.get?, Slot.close, Device.closeAll, QueuePair.unset]

theorem halt_eq (p : Port κ) (phase : Phase) (dev : δ) :
    p.halt phase dev =
      ({ p with queues := p.queues.map .unset, phase, link := { p.link with state := .down } },
        Device.closeAll p.handles dev) := by
  simp only [halt, closeQueues_eq, handles]

theorem handles_halt (p : Port κ) (phase : Phase) (dev : δ) :
    (p.halt phase dev).1.handles = [] := by
  rw [halt_eq, handles, List.filterMap_map]
  exact List.filterMap_eq_nil_iff.2 fun _ _ => rfl

theorem poolOf_halt (p : Port κ) (phase : Phase) (dev : δ) (q : Nat) :
    (p.halt phase dev).1.poolOf q = p.poolOf q := by
  simp only [halt_eq, poolOf, List.getElem?_map]
  cases p.queues[q]? <;> rfl

theorem closeQueue_eq (p : Port κ) (q : Nat) (dev : δ) :
    p.closeQueue q dev =
      (p.modifyQueue q .unset, Device.closeAll (p.handle? q).toList dev) := by
  cases hq : p.queues[q]?
  case none =>
    have hl := List.getElem?_eq_none_iff.1 hq
    simp [closeQueue, hq, handle?_of_le hl, modifyQueue_of_le hl, Device.closeAll]
  case some pair =>
    have hm : p.queues.set q pair.unset = p.queues.modify q .unset := by
      rw [List.modify_eq_set_getElem?, hq]
      rfl
    simp only [closeQueue, handle?, modifyQueue, hq, QueuePair.close, Option.bind_some, ← hm]
    cases hs : pair.slot <;> rfl

theorem releaseRx_eq (p : Port κ) (q : Nat) (dev : δ) :
    p.releaseRx q dev =
      ((p.modifyQueue q .unset).modifyQueue q .clearPool,
        Device.closeAll (p.handle? q).toList dev) := by
  have hh := handle?_modifyQueue (p := p) (q := q) (i := q) (f := .clearPool) fun _ => rfl
  rw [releaseRx, ← modifyQueue, closeQueue_eq, hh]
  simp only [modifyQueue, List.modify_modify_eq]
  rfl

end Closing

section Opening

-- How making sure that a queue is open may end. Only where the port has no other open queue does
-- it look at the interface, and only there may a queue that was opened be given back.
inductive Opening (p : Port κ) (q : Nat) (dev : δ) : Except Error (Port κ) × δ → Prop
  | already : p.queueIsOpen q = true → Opening p q dev (.ok p, dev)
  | refused {e dev'} :
    p.queueIsOpen q = false →
    Device.openQueue (some p.iface) (UInt16.ofNat p.queueCount) dev = (.error e, dev') →
    Opening p q dev (.error e, dev')
  | joined {h name dev'} :
    p.queueIsOpen q = false →
    Device.openQueue (some p.iface) (UInt16.ofNat p.queueCount) dev = (.ok (h, name), dev') →
    0 < p.openCount →
    Opening p q dev (.ok (p.modifyQueue q (.opened h)), dev')
  | unidentified {h name dev' e dev''} :
    p.queueIsOpen q = false →
    Device.openQueue (some p.iface) (UInt16.ofNat p.queueCount) dev = (.ok (h, name), dev') →
    p.openCount = 0 →
    Address.identify h name p.id p.numaNode dev' = (.error e, dev'') →
    Opening p q dev (.error e, Device.close h dev'')
  | identified {h name dev' mac ifIndex dev''} :
    p.queueIsOpen q = false →
    Device.openQueue (some p.iface) (UInt16.ofNat p.queueCount) dev = (.ok (h, name), dev') →
    p.openCount = 0 →
    Address.identify h name p.id p.numaNode dev' = (.ok (mac, ifIndex), dev'') →
    Opening p q dev (.ok ({ p with mac, ifIndex }.modifyQueue q (.opened h)), dev'')

theorem ensureOpen_opening (p : Port κ) (q : Nat) (dev : δ) :
    Opening p q dev (p.ensureOpen q dev) := by
  unfold ensureOpen
  cases hq : p.queueIsOpen q
  case true => exact .already hq
  case false =>
    simp only [Bool.false_eq_true, if_false]
    split
    case h_1 ho => exact .refused hq ho
    case h_2 h name dev' ho =>
      split
      case isTrue hc =>
        split
        case h_1 hi => exact .unidentified hq ho hc hi
        case h_2 hi => exact .identified hq ho hc hi
      case isFalse hc => exact .joined hq ho (Nat.pos_of_ne_zero hc)

theorem checkSetup_eq_ok {p : Port κ} {q : Nat} (h : p.checkSetup q = .ok ()) :
    p.phase ≠ .closed ∧ q < p.queueCount := by
  unfold checkSetup expect at h
  split at h
  case isTrue hp =>
    constructor
    case left =>
      rintro hc
      simp [hc] at hp
    case right =>
      by_contra hq
      simp [Nat.not_lt.1 hq, bind, Except.bind] at h
  case isFalse => cases h

-- Setting up a queue is either refused before the device is asked, or opens the queue.
theorem setUpTx_opening (p : Port κ) (q : Nat) (dev : δ) :
    (∃ e, p.setUpTx q dev = (.error e, dev)) ∨
      p.phase ≠ .closed ∧ q < p.queueCount ∧ p.setUpTx q dev = p.ensureOpen q dev := by
  unfold setUpTx
  split
  case h_1 e _ => exact .inl ⟨e, rfl⟩
  case h_2 h =>
    obtain ⟨hp, hq⟩ := checkSetup_eq_ok h
    exact .inr ⟨hp, hq, rfl⟩

theorem setUpRx_opening (p : Port κ) (q : Nat) (pool : PoolId) (pools : Pools) (dev : δ) :
    (∃ e, p.setUpRx q pool pools dev = (.error e, dev)) ∨
      p.phase ≠ .closed ∧ q < p.queueCount ∧
        p.setUpRx q pool pools dev =
          ((p.ensureOpen q dev).1.map (·.modifyQueue q (·.setPool pool)),
            (p.ensureOpen q dev).2) := by
  unfold setUpRx
  split
  case h_1 e _ => exact .inl ⟨e, rfl⟩
  case h_2 h =>
    obtain ⟨hp, hq⟩ := checkSetup_eq_ok h
    dsimp only
    split
    case isTrue => exact .inl ⟨_, rfl⟩
    case isFalse =>
      refine .inr ⟨hp, hq, ?_⟩
      rcases p.ensureOpen q dev with ⟨_ | _, _⟩ <;> rfl

end Opening

section Bursts

theorem exists_burst_rx (pair : QueuePair κ) (bs : List Buffer) (n : Nat) (dev : δ)
    (pools : Pools) : ∃ c, (Burst.rx pair bs n dev pools).queue = pair.counted c := by
  unfold Burst.rx
  split
  case h_1 => exact ⟨_, rfl⟩
  case h_2 => exact ⟨pair.counters, rfl⟩

theorem exists_burst_tx (pair : QueuePair κ) (bs : List Buffer) (dev : δ) (pools : Pools) :
    ∃ c, (Burst.tx pair bs dev pools).queue = pair.counted c := by
  unfold Burst.tx
  split
  case h_1 => exact ⟨pair.counters, rfl⟩
  case h_2 => exact ⟨_, rfl⟩

omit [Device δ κ] in
-- A burst changes nothing of a port but the counters of one queue.
theorem exists_burst_port {p : Port κ} {q : Nat} {bs : List Buffer} {dev : δ} {pools : Pools}
    {run : QueuePair κ → List Buffer → δ → Pools → Burst.Outcome κ δ}
    (h : ∀ pair, ∃ c, (run pair bs dev pools).queue = pair.counted c) :
    ∃ c, (p.burst q bs dev pools run).port = p.modifyQueue q (.counted c) := by
  unfold burst
  split
  case h_1 hq =>
    have hl := List.getElem?_eq_none_iff.1 hq
    exact ⟨.zero, (modifyQueue_of_le hl).symm⟩
  case h_2 pair hq =>
    obtain ⟨c, hc⟩ := h pair
    exact ⟨c, by simp [modifyQueue, hc, List.modify_eq_set_getElem?, hq]⟩

theorem exists_rx_port (p : Port κ) (q n : Nat) (bs : List Buffer) (dev : δ) (pools : Pools) :
    ∃ c, (p.rx q bs n dev pools).port = p.modifyQueue q (.counted c) :=
  exists_burst_port (exists_burst_rx · bs n dev pools)

theorem exists_tx_port (p : Port κ) (q : Nat) (bs : List Buffer) (dev : δ) (pools : Pools) :
    ∃ c, (p.tx q bs dev pools).port = p.modifyQueue q (.counted c) :=
  exists_burst_port (exists_burst_tx · bs dev pools)

omit [Device δ κ] in
theorem kept_counted (p : Port κ) (q : Nat) (c : QueueCounters) :
    (p.modifyQueue q (.counted c)).handle? = p.handle? ∧
      (p.modifyQueue q (.counted c)).poolOf = p.poolOf :=
  ⟨funext fun _ => handle?_modifyQueue fun _ => rfl,
    funext fun _ => poolOf_modifyQueue fun _ => rfl⟩

-- A burst changes neither the descriptor nor the pool of any queue.
theorem kept_rx (p : Port κ) (q n : Nat) (bs : List Buffer) (dev : δ) (pools : Pools) :
    (p.rx q bs n dev pools).port.handle? = p.handle? ∧
      (p.rx q bs n dev pools).port.poolOf = p.poolOf := by
  have ⟨c, hc⟩ := p.exists_rx_port q n bs dev pools
  exact hc ▸ p.kept_counted q c

theorem kept_tx (p : Port κ) (q : Nat) (bs : List Buffer) (dev : δ) (pools : Pools) :
    (p.tx q bs dev pools).port.handle? = p.handle? ∧
      (p.tx q bs dev pools).port.poolOf = p.poolOf := by
  have ⟨c, hc⟩ := p.exists_tx_port q bs dev pools
  exact hc ▸ p.kept_counted q c

end Bursts

end Port

end TapPort
