import TapPort.Proofs.Device.Interface

namespace TapPort

namespace MemoryTap

variable {α : Type} {before after : α → Option Nat} {d d' : MemoryTap}

-- That queues keep their descriptors or lose them, but for one that may have got a new one.
def Renews (before : α → Option Nat) (d : MemoryTap) (after : α → Option Nat) (d' : MemoryTap) :
    Prop :=
  ∃ a₀, ∀ a id, after a = some id → before a = some id ∨ a = a₀ ∧ d.opens < id ∧ id ≤ d'.opens

theorem renews_of_lost [Inhabited α] (h : ∀ a, after a = none ∨ after a = before a) :
    Renews before d after d' := by
  refine ⟨Inhabited.default, ?_⟩
  intro a id ha
  cases h a
  case inl hn => cases hn.symm.trans ha
  case inr he => exact .inl (he ▸ ha)

end MemoryTap

namespace Port

open MemoryTap (Renews renews_of_lost)

variable {p p' : Port Nat} {q : Nat} {d d' : MemoryTap}

theorem handle?_unset_cases (p : Port Nat) (i q : Nat) :
    (p.modifyQueue i .unset).handle? q = none ∨
      (p.modifyQueue i .unset).handle? q = p.handle? q := by
  by_cases h : q = i
  case pos => exact .inl (h ▸ handle?_unset)
  case neg => exact .inr (handle?_modifyQueue_ne h)

theorem renews_opened (i : Nat) (hd : d'.opens = d.opens + 1) :
    Renews p.handle? d (p.modifyQueue i (.opened (d.opens + 1))).handle? d' := by
  refine ⟨i, ?_⟩
  intro q id hq
  by_cases h : q = i
  case neg =>
    rw [handle?_modifyQueue_ne h] at hq
    exact .inl hq
  case pos =>
    have hl := lt_queueCount_of_handle? hq
    rw [queueCount_modifyQueue] at hl
    rw [h, handle?_opened (h ▸ hl)] at hq
    cases hq
    exact .inr ⟨h, Nat.lt_succ_self _, Nat.le_of_eq hd.symm⟩

theorem renews_opening (o : Opening p q d (.ok p', d')) : Renews p.handle? d p'.handle? d' := by
  cases o
  case already => exact renews_of_lost fun _ => .inr rfl
  case joined ho =>
    have ⟨flags, _, hid, _, hd⟩ := MemoryTap.openQueue_ok ho
    subst hid hd
    exact renews_opened q (MemoryTap.opens_attach ..)
  case identified given _ mac ifIndex _ ho _ hi =>
    have ⟨flags, _, hid, _, hd⟩ := MemoryTap.openQueue_ok ho
    have ⟨_, _, hd'⟩ := MemoryTap.identify_ok hi
    subst hid hd hd'
    exact renews_opened (p := { p with mac, ifIndex }) q (MemoryTap.opens_attach flags given)

theorem renews_course {op : Op} {e : Effect Nat MemoryTap} (k : Course p d op e) :
    Renews p.handle? d e.port.handle? e.dev := by
  cases k
  case refused | idle | configured | started | notOpened =>
    exact renews_of_lost fun _ => .inr rfl
  case halted phase _ =>
    apply renews_of_lost
    intro q
    exact .inl (queueIsOpen_eq_false.1 (handles_eq_nil.1 (handles_halt p phase d) q))
  case openedRx i p₁ _ pool _ _ _ o =>
    have hs : (p₁.modifyQueue i (·.setPool pool)).handle? = p₁.handle? := by
      funext q
      exact handle?_modifyQueue fun _ => rfl
    exact hs ▸ renews_opening o
  case openedTx o => exact renews_opening o
  case releasedRx i =>
    apply renews_of_lost
    intro q
    have hc := handle?_modifyQueue (p := p.modifyQueue i .unset) (q := i) (i := q) (f := .clearPool)
      fun _ => rfl
    exact hc ▸ p.handle?_unset_cases i q
  case releasedTx i => exact renews_of_lost (p.handle?_unset_cases i)
  case statsReset =>
    apply renews_of_lost
    intro q
    refine .inr ?_
    simp only [resetStats, handle?, List.getElem?_map]
    cases p.queues[q]? <;> rfl
  case received | sent =>
    apply renews_of_lost
    exact fun q => .inr (handle?_modifyQueue fun _ => rfl)

theorem renews_step (p : Port Nat) (d : MemoryTap) (op : Op) :
    Renews p.handle? d (p.step d op).port.handle? (p.step d op).dev :=
  renews_course (p.step_course d op)

theorem renews_making {name iface : String} {id : UInt16} {args : PortArgs}
    (m : Making name iface id args d (.ok p, d')) : Renews (fun _ => none) d p.handle? d' := by
  cases m
  case made given _ mac ifIndex _ ho hi =>
    have ⟨flags, _, hid, _, hd⟩ := MemoryTap.openQueue_ok ho
    have ⟨_, _, hd'⟩ := MemoryTap.identify_ok hi
    subst hid hd hd'
    let unopened : Port Nat :=
      { initial name given id args mac ifIndex (d.opens + 1) with
        queues := (List.range args.queues.toNat).map fun i => QueuePair.ofIndex i id }
    have hn : unopened.handle? = fun _ => none := by
      funext q
      simp only [handle?, unopened, List.getElem?_map]
      cases (List.range _)[q]? <;> rfl
    exact hn ▸ renews_opened (p := unopened) 0 (MemoryTap.opens_attach flags given)

end Port

end TapPort
