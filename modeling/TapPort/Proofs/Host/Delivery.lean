import TapPort.Proofs.Device.Receiving
import TapPort.Proofs.Device.Tenure
import TapPort.Proofs.Host.Basic

namespace TapPort

-- A packet that a burst put behind the buffers it was given.
structure Delivery where
  -- The place of the port.
  place : Nat
  queue : Nat
  -- The descriptor that the queue was open on.
  handle : Option Nat
  buffer : Buffer

-- That a buffer holds a frame, as much of it as there is room for from its offset on.
def Buffer.Carries (frame : Bytes) (b : Buffer) : Prop :=
  b.data = frame.take (b.storage.length - b.offset)

namespace Host

variable {h : Host MemoryTap Nat} {d : MemoryTap} {id : Nat}

-- The frames that an event pushes.
def Event.pushed : Event MemoryTap.Control → List Bytes
  | .control (.push frame n) => List.replicate n frame
  | .control (.pushTo _ frame) => [frame]
  | _ => []

-- The descriptor of a queue of the port in a place.
def handleAt (h : Host MemoryTap Nat) (a : Nat × Nat) : Option Nat :=
  h.ports[a.1]?.bind (·.handle? a.2)

namespace Transition

variable (t : Transition MemoryTap Nat MemoryTap.Control)

-- The frames that a transition places on the ring of a queue.
def placed (id : Nat) : List Bytes :=
  let d := t.source.dev
  match t.event with
  | .control (.push frame n) =>
    if d.queueAt (d.steer frame) = some id then List.replicate n frame else []
  | .control (.pushTo slot frame) => if d.queueAt slot = some id then [frame] else []
  | _ => []

def delivered : List Delivery :=
  match t.event with
  | .port place (.rx q n bs _) =>
    match t.source.ports[place]? with
    | some p =>
      let o := p.rx q bs n t.source.dev t.source.pools
      (o.buffers.drop bs.length).map fun b => ⟨place, q, p.handle? q, b⟩
    | none => []
  | _ => []

-- What a transition does with the frames that wait: it leaves them, or pushes some, or a burst
-- takes the first ones of a queue.
inductive Moves : Prop
  | kept :
    t.source.dev.Keeps t.target.dev →
    t.target.dev.Distinct →
    t.event.pushed = [] →
    (∀ id, t.placed id = []) →
    t.delivered = [] →
    Moves
  | pushed (slot : Nat) (frame : Bytes) (n : Nat) :
    t.target.dev = t.source.dev.pushTo slot frame n →
    t.event.pushed = List.replicate n frame →
    (∀ id, t.placed id =
      if t.source.dev.queueAt slot = some id then List.replicate n frame else []) →
    t.delivered = [] →
    Moves
  | received (a : Nat × Nat) (id k : Nat) (fill : Bytes → Buffer) :
    t.target.dev = t.source.dev.consume id k →
    t.event.pushed = [] →
    (∀ id, t.placed id = []) →
    t.source.handleAt a = some id →
    k ≤ (t.source.dev.framesOf id).length →
    (∀ frame, (fill frame).Carries frame) →
    t.delivered =
      ((t.source.dev.framesOf id).take k).map (fun frame => ⟨a.1, a.2, some id, fill frame⟩) →
    Moves

end Transition

-- What there is to know of a host to know what a burst receives.
structure Orderly (h : Host MemoryTap Nat) : Prop extends Provided h where
  distinct : h.dev.Distinct
  waiting : ∀ id, ∀ frame ∈ h.dev.framesOf id, frame ≠ []

-- That a burst on a queue with a descriptor and a pool receives as many packets as it was asked
-- for, as there are buffers for and as wait, and leaves the frames behind those where they are.
def Transition.Thorough (t : Transition MemoryTap Nat MemoryTap.Control) : Prop :=
  ∀ place q n bs ps p id pool, t.event = .port place (.rx q n bs ps) →
    t.source.ports[place]? = some p → p.handle? q = some id → p.poolOf q = some pool →
    let o := p.rx q bs n t.source.dev t.source.pools
    o.count = min n (min (t.source.pools.available pool) (t.source.dev.framesOf id).length) ∧
      o.buffers.length = bs.length + o.count ∧
      o.dev.framesOf id = (t.source.dev.framesOf id).drop o.count

theorem Transition.Moves.still {t : Transition MemoryTap Nat MemoryTap.Control}
    (o : t.source.Orderly) (hd : t.target.dev = t.source.dev) (hp : t.event.pushed = [])
    (hq : ∀ id, t.placed id = []) (hb : t.delivered = []) : t.Moves :=
  .kept (hd ▸ .refl _) (hd ▸ o.distinct) hp hq hb

section Port

variable {place : Nat} {p : Port Nat} {op : Port.Op}

theorem moves_rx (o : h.Orderly) (hp : h.ports[place]? = some p) (q n : Nat) (bs : List Buffer)
    (ps : Pools) : (Transition.mk h (Event.port place (.rx q n bs ps))).Moves := by
  have idle (hn : p.handle? q = none ∨ p.poolOf q = none) :
      (Transition.mk h (Event.port place (.rx q n bs ps))).Moves := by
    have hr : p.rx q bs n h.dev h.pools = ⟨0, p, bs, h.dev, h.pools⟩ := MemoryTap.rx_idle hn
    refine .still o ?_ rfl (fun _ => rfl) ?_
    case refine_1 =>
      rw [target_port hp]
      exact congrArg (·.dev) hr
    case refine_2 => simp [Transition.delivered, hp, hr]
  cases hh : p.handle? q
  case none => exact idle (.inl hh)
  case some id =>
    cases hq : p.poolOf q
    case none => exact idle (.inr hq)
    case some pool =>
      have ⟨room, hr, hf⟩ := o.fits p (List.mem_of_getElem? hp) q pool hq
      have ⟨k, portId, hk, _, hd, hb⟩ :=
        MemoryTap.rx_waiting bs n hh hq o.distinct.nodup o.sound hr hf (o.waiting id)
      refine .received (place, q) id k (.carrying pool room portId) ?_ rfl (fun _ => rfl) ?_ ?_
        Buffer.data_carrying ?_
      case refine_1 =>
        rw [target_port hp]
        exact hd
      case refine_2 => simp [handleAt, hp, hh]
      case refine_3 =>
        change k ≤ (h.dev.framesOf id).length
        omega
      case refine_4 =>
        simp only [Transition.delivered, hp, hb, List.drop_left, hh, List.map_map]
        rfl

theorem moves_port (o : h.Orderly) (hp : h.ports[place]? = some p) (op : Port.Op) :
    (Transition.mk h (Event.port place op)).Moves := by
  have kept (hr : ∀ q n bs pools, op.over h.pools ≠ .rx q n bs pools)
      (hd : (Transition.mk h (Event.port place op)).delivered = []) :
      (Transition.mk h (Event.port place op)).Moves := by
    have hk := (MemoryTap.upkeep_keeps h.dev).step hr (p := p) ⟨o.distinct, .refl h.dev⟩
    refine .kept ?_ ?_ rfl (fun _ => rfl) hd
    all_goals rw [target_port hp]
    case refine_1 => exact hk.2
    case refine_2 => exact hk.1
  cases op
  case rx q n bs ps => exact moves_rx o hp q n bs ps
  all_goals exact kept nofun rfl

end Port

theorem moves_make (o : h.Orderly) (name iface : String) (id : UInt16) (args : PortArgs) :
    (Transition.mk h (Event.make name iface id args)).Moves := by
  have hk := (MemoryTap.upkeep_keeps h.dev).making (Port.create_making name iface id args h.dev)
    ⟨o.distinct, .refl h.dev⟩
  have hd : (⟨h, .make name iface id args⟩ : Transition _ _ MemoryTap.Control).target.dev =
      (Port.create name iface id args h.dev).2 := by
    simp only [Transition.target, step]
    split
    all_goals next he => rw [he]
  exact .kept (hd ▸ hk.2) (hd ▸ hk.1) rfl (fun _ => rfl) rfl

theorem moves_control (o : h.Orderly) (c : MemoryTap.Control) :
    (Transition.mk h (Event.control c)).Moves := by
  have kept (hr : (MemoryTap.control c h.dev).2.rings = h.dev.rings)
      (hd : (MemoryTap.control c h.dev).2.dropped = h.dev.dropped)
      (hp : (Event.control c).pushed = [])
      (hq : ∀ id, (Transition.mk h (Event.control c)).placed id = []) :
      (Transition.mk h (Event.control c)).Moves :=
    .kept (.ofRings hr (MemoryTap.opens_control c) hd)
      (o.distinct.congr (MemoryTap.attached_control c) (MemoryTap.opens_control c)) hp hq rfl
  cases c
  case push frame n => exact .pushed (h.dev.steer frame) frame n rfl rfl (fun _ => rfl) rfl
  case pushTo slot frame => exact .pushed slot frame 1 rfl rfl (fun _ => rfl) rfl
  all_goals exact kept rfl rfl rfl fun _ => rfl

theorem Orderly.moves {t : Transition MemoryTap Nat MemoryTap.Control} (o : t.source.Orderly) :
    t.Moves := by
  cases t
  case mk h e =>
    cases e
    case make name iface id args => exact moves_make o name iface id args
    case port place op =>
      cases hp : h.ports[place]?
      case none =>
        refine .still o ?_ rfl (fun _ => rfl) ?_
        case refine_1 => simp [Transition.target, step, hp]
        case refine_2 =>
          cases op
          case rx => simp [Transition.delivered, hp]
          all_goals rfl
      case some => exact moves_port o hp op
    case control c => exact moves_control o c
    all_goals exact .still o rfl rfl (fun _ => rfl) rfl

section Step

variable {t : Transition MemoryTap Nat MemoryTap.Control}

theorem Orderly.step (o : t.source.Orderly) (hf : ∀ frame ∈ t.event.pushed, frame ≠ []) :
    t.target.Orderly := by
  refine ⟨o.toProvided.step t.event, ?_, ?_⟩
  case refine_1 =>
    cases o.moves
    case kept hd _ _ _ => exact hd
    case pushed hd _ _ _ =>
      exact hd ▸ o.distinct.congr (MemoryTap.attached_pushTo ..) (MemoryTap.opens_pushTo ..)
    case received hd _ _ _ _ _ _ => exact hd ▸ o.distinct.congr MemoryTap.attached_consume rfl
  case refine_2 =>
    intro id frame hm
    cases o.moves
    case kept hk _ _ _ _ =>
      by_cases ha : id ∈ t.target.dev.attached
      case neg =>
        rw [MemoryTap.framesOf_of_not_mem ha] at hm
        cases hm
      case pos =>
        cases hk.frames id ha
        case inl h =>
          rw [h.2] at hm
          exact o.waiting id frame hm
        case inr h =>
          rw [h.2] at hm
          cases hm
    case pushed slot frame' n hd hp _ _ =>
      rw [hd, MemoryTap.framesOf_pushTo o.distinct.nodup] at hm
      split at hm
      case isTrue =>
        cases List.mem_append.1 hm
        case inl hm => exact o.waiting id frame hm
        case inr hm => exact hf frame (hp ▸ hm)
      case isFalse => exact o.waiting id frame hm
    case received hd _ _ _ _ _ _ =>
      rw [hd, MemoryTap.framesOf_consume] at hm
      split at hm
      case isTrue => exact o.waiting id frame (List.mem_of_mem_drop hm)
      case isFalse => exact o.waiting id frame hm

end Step

-- The packets of a run that were received from a queue of the device.
def deliveredBy (id : Nat) (ts : List (Transition MemoryTap Nat MemoryTap.Control)) : List Buffer :=
  ((ts.flatMap (·.delivered)).filter (·.handle = some id)).map (·.buffer)

-- That each frame that was pushed was delivered, waits, or was dropped.
def Balances (ts : List (Transition MemoryTap Nat MemoryTap.Control)) (d : MemoryTap) : Prop :=
  (ts.flatMap (·.event.pushed)).length = (ts.flatMap (·.delivered)).length + d.pending + d.dropped

-- That the frames placed on a queue were delivered in order by that queue up to some, which wait in
-- order if the queue is still there.
def InOrder (id : Nat) (ts : List (Transition MemoryTap Nat MemoryTap.Control)) (d : MemoryTap) :
    Prop :=
  ∃ got rest, ts.flatMap (·.placed id) = got ++ rest ∧
    List.Forall₂ Buffer.Carries got (deliveredBy id ts) ∧ (id ∈ d.attached → d.framesOf id = rest)

-- What is known of the frames after some transitions.
structure Ledger (ts : List (Transition MemoryTap Nat MemoryTap.Control))
    (h : Host MemoryTap Nat) : Prop where
  total : Balances ts h.dev
  queues (id : Nat) : InOrder id ts h.dev
  unplaced (id : Nat) : h.dev.opens < id → ts.flatMap (·.placed id) = []

namespace Ledger

variable {ts : List (Transition MemoryTap Nat MemoryTap.Control)}
  {t : Transition MemoryTap Nat MemoryTap.Control}

theorem start (features : TunFlags) : Ledger [] (ofDevice (MemoryTap.ofFeatures features)) where
  total := rfl
  queues _ := ⟨[], [], rfl, .nil, nofun⟩
  unplaced _ _ := rfl

theorem deliveredBy_concat (id : Nat) :
    deliveredBy id (ts ++ [t]) = deliveredBy id ts ++ deliveredBy id [t] := by
  simp [deliveredBy]

theorem deliveredBy_of_nil (hb : t.delivered = []) (id : Nat) : deliveredBy id [t] = [] := by
  simp [deliveredBy, hb]

theorem deliveredBy_of_map {a : Nat × Nat} {i : Nat} {fill : Bytes → Buffer} {frames : List Bytes}
    (hb : t.delivered = frames.map fun frame => ⟨a.1, a.2, some i, fill frame⟩) (id : Nat) :
    deliveredBy id [t] = if i = id then frames.map fill else [] := by
  simp only [deliveredBy, List.flatMap_singleton, hb, List.filter_map, List.map_map]
  split
  case isTrue h => simp [h, Function.comp_def]
  case isFalse h => simp [h, Function.comp_def]

theorem balances_concat (o : t.source.Orderly) (h : Balances ts t.source.dev) :
    Balances (ts ++ [t]) t.target.dev := by
  simp only [Balances, List.flatMap_append, List.flatMap_singleton, List.length_append] at h ⊢
  cases o.moves
  case kept hk _ hp _ hb =>
    have ht := hk.total
    simp only [hp, hb, List.length_nil]
    omega
  case pushed slot frame n hd hp _ hb =>
    have ht := MemoryTap.pending_pushTo (d := t.source.dev) slot frame n
    rw [hp, hb, hd, List.length_replicate, List.length_nil]
    omega
  case received id k fill hd hp _ _ hk _ hb =>
    have ht := MemoryTap.pending_consume o.distinct.nodup hk
    have hr : t.target.dev.dropped = t.source.dev.dropped := hd ▸ rfl
    rw [hp, hb, hr, hd, List.length_nil, List.length_map, List.length_take_of_le hk]
    omega

-- A burst delivers the first of the frames that wait on its queue.
theorem inOrder_received {id k : Nat} {fill : Bytes → Buffer} (h : InOrder id ts t.source.dev)
    (hq : t.placed id = []) (hd : t.target.dev = t.source.dev.consume id k)
    (hb : deliveredBy id [t] = ((t.source.dev.framesOf id).take k).map fill)
    (hc : ∀ frame, (fill frame).Carries frame) : InOrder id (ts ++ [t]) t.target.dev := by
  have ⟨got, rest, hp, hg, hr⟩ := h
  simp only [InOrder, List.flatMap_append, List.flatMap_singleton, deliveredBy_concat, hq,
    List.append_nil, hb, hd, MemoryTap.attached_consume, MemoryTap.framesOf_consume_self]
  by_cases ha : id ∈ t.source.dev.attached
  case neg =>
    rw [MemoryTap.framesOf_of_not_mem ha, List.take_nil, List.map_nil, List.append_nil]
    exact ⟨got, rest, hp, hg, fun h => (ha h).elim⟩
  case pos =>
    rw [hr ha]
    refine ⟨got ++ rest.take k, rest.drop k, ?_, ?_, fun _ => rfl⟩
    case refine_1 => rw [hp, List.append_assoc, List.take_append_drop]
    case refine_2 =>
      refine List.rel_append hg (List.forall₂_map_right_iff.2 (List.forall₂_same.2 ?_))
      exact fun frame _ => hc frame

theorem inOrder_concat (o : t.source.Orderly) (l : Ledger ts t.source) (id : Nat) :
    InOrder id (ts ++ [t]) t.target.dev := by
  have ⟨got, rest, hp, hg, hr⟩ := l.queues id
  cases o.moves
  case received a i k fill hd _ hq _ _ hc hb =>
    have hb' := deliveredBy_of_map hb id
    by_cases hi : i = id
    case pos =>
      subst hi
      rw [if_pos rfl] at hb'
      exact inOrder_received (l.queues i) (hq i) hd hb' hc
    case neg =>
      rw [if_neg hi] at hb'
      simp only [InOrder, List.flatMap_append, List.flatMap_singleton, deliveredBy_concat, hb', hq,
        List.append_nil, hd, MemoryTap.attached_consume, MemoryTap.framesOf_consume,
        if_neg (Ne.symm hi)]
      exact ⟨got, rest, hp, hg, hr⟩
  case kept hk _ _ hq hb =>
    simp only [InOrder, List.flatMap_append, List.flatMap_singleton, deliveredBy_concat,
      deliveredBy_of_nil hb, hq, List.append_nil]
    refine ⟨got, rest, hp, hg, ?_⟩
    intro ha
    cases hk.frames id ha
    case inl h => exact h.2.trans (hr h.1)
    case inr h =>
      rw [l.unplaced id h.1] at hp
      exact h.2.trans (List.append_eq_nil_iff.1 hp.symm).2.symm
  case pushed slot frame n hd _ hq hb =>
    simp only [InOrder, List.flatMap_append, List.flatMap_singleton, deliveredBy_concat,
      deliveredBy_of_nil hb, List.append_nil, hd, MemoryTap.attached_pushTo]
    refine ⟨got, rest ++ t.placed id, by rw [hp, List.append_assoc], hg, ?_⟩
    intro ha
    rw [MemoryTap.framesOf_pushTo o.distinct.nodup, hq, hr ha]
    split <;> simp

theorem unplaced_concat (o : t.source.Orderly) (l : Ledger ts t.source) {id : Nat}
    (hi : t.target.dev.opens < id) : (ts ++ [t]).flatMap (·.placed id) = [] := by
  simp only [List.flatMap_append, List.flatMap_singleton, List.append_eq_nil_iff]
  cases o.moves
  case kept hk _ _ hq _ => exact ⟨l.unplaced id (Nat.lt_of_le_of_lt hk.opens hi), hq id⟩
  case pushed slot frame n hd _ hq _ =>
    rw [hd, MemoryTap.opens_pushTo] at hi
    refine ⟨l.unplaced id hi, ?_⟩
    rw [hq, if_neg]
    exact fun h => o.distinct.not_mem hi (MemoryTap.queueAt_mem h)
  case received hd _ hq _ _ _ _ =>
    rw [hd] at hi
    exact ⟨l.unplaced id hi, hq id⟩

theorem concat (o : t.source.Orderly) (l : Ledger ts t.source) : Ledger (ts ++ [t]) t.target where
  total := balances_concat o l.total
  queues := inOrder_concat o l
  unplaced _ := unplaced_concat o l

end Ledger

section Owners

variable {ts : List (Transition MemoryTap Nat MemoryTap.Control)}
  {t : Transition MemoryTap Nat MemoryTap.Control}

theorem renews_target (t : Transition MemoryTap Nat MemoryTap.Control) :
    MemoryTap.Renews t.source.handleAt t.source.dev t.target.handleAt t.target.dev := by
  cases t
  case mk h e =>
    have same {h' : Host MemoryTap Nat} (hp : h'.ports = h.ports) :
        MemoryTap.Renews h.handleAt h.dev h'.handleAt h'.dev := by
      apply MemoryTap.renews_of_lost
      intro a
      rw [handleAt, handleAt, hp]
      exact .inr rfl
    cases e
    case make name iface id args =>
      have hm := Port.create_making name iface id args h.dev
      simp only [Transition.target, step]
      split
      case h_2 => exact same rfl
      case h_1 p d he =>
        rw [he] at hm
        obtain ⟨i, hi⟩ := Port.renews_making hm
        refine ⟨(h.ports.length, i), ?_⟩
        intro a id ha
        rw [handleAt, List.getElem?_append] at ha
        split at ha
        case isTrue => exact .inl ha
        case isFalse hl =>
          rw [List.getElem?_singleton] at ha
          split at ha
          case isFalse => cases ha
          case isTrue hz =>
            cases hi a.2 id ha
            case inl hn => cases hn
            case inr hn =>
              have he : a.1 = h.ports.length := by omega
              exact .inr ⟨Prod.ext he hn.1, hn.2⟩
    case port place op =>
      cases hp : h.ports[place]?
      case none =>
        apply same
        simp [Transition.target, step, hp]
      case some p =>
        obtain ⟨i, hi⟩ := p.renews_step h.dev (op.over h.pools)
        rw [target_port hp]
        refine ⟨(place, i), ?_⟩
        intro a id ha
        simp only [handleAt, stepPort] at ha ⊢
        by_cases he : place = a.1
        case neg =>
          rw [List.getElem?_set_ne he] at ha
          exact .inl ha
        case pos =>
          subst he
          rw [List.getElem?_set_self (List.getElem?_eq_some_iff.1 hp).1] at ha
          cases hi a.2 id ha
          case inl ho => exact .inl (by rw [hp]; exact ho)
          case inr hn => exact .inr ⟨Prod.ext rfl hn.1, hn.2⟩
    all_goals exact same rfl

-- That no two queues of ports were ever open on the same descriptor.
def Owned (ts : List (Transition MemoryTap Nat MemoryTap.Control)) (h : Host MemoryTap Nat) :
    Prop :=
  ∃ owner : Nat → Nat × Nat,
    (∀ a id, h.handleAt a = some id → owner id = a ∧ id ≤ h.dev.opens) ∧
      ∀ x ∈ ts.flatMap (·.delivered), ∃ id, x.handle = some id ∧ owner id = (x.place, x.queue) ∧
        id ≤ h.dev.opens

theorem opens_le_target (o : t.source.Orderly) : t.source.dev.opens ≤ t.target.dev.opens := by
  cases o.moves
  case kept hk _ _ _ _ => exact hk.opens
  case pushed hd _ _ _ => exact Nat.le_of_eq (hd ▸ (MemoryTap.opens_pushTo ..).symm)
  case received hd _ _ _ _ _ _ => exact Nat.le_of_eq (hd ▸ rfl)

theorem Owned.concat (o : t.source.Orderly) (w : Owned ts t.source) :
    Owned (ts ++ [t]) t.target := by
  have ⟨owner, hh, hx⟩ := w
  have ⟨a₀, hr⟩ := renews_target t
  have hl := opens_le_target o
  refine ⟨fun id => if id ≤ t.source.dev.opens then owner id else a₀, ?_, ?_⟩
  case refine_1 =>
    intro a id ha
    cases hr a id ha
    case inl ha =>
      have ⟨he, hi⟩ := hh a id ha
      exact ⟨(if_pos hi).trans he, Nat.le_trans hi hl⟩
    case inr ha => exact ⟨(if_neg (Nat.not_le.2 ha.2.1)).trans ha.1.symm, ha.2.2⟩
  case refine_2 =>
    have known {x : Delivery} {id : Nat} (hi : x.handle = some id)
        (ho : owner id = (x.place, x.queue)) (hb : id ≤ t.source.dev.opens) :
        ∃ id, x.handle = some id ∧
          (if id ≤ t.source.dev.opens then owner id else a₀) = (x.place, x.queue) ∧
          id ≤ t.target.dev.opens :=
      ⟨id, hi, (if_pos hb).trans ho, Nat.le_trans hb hl⟩
    intro x hm
    simp only [List.flatMap_append, List.flatMap_singleton, List.mem_append] at hm
    cases hm
    case inl hm =>
      have ⟨id, hi, ho, hb⟩ := hx x hm
      exact known hi ho hb
    case inr hm =>
      cases o.moves
      case kept hb => exact (List.not_mem_nil (hb ▸ hm)).elim
      case pushed hb => exact (List.not_mem_nil (hb ▸ hm)).elim
      case received a id k fill _ _ _ ha _ _ hb =>
        rw [hb] at hm
        have ⟨frame, _, he⟩ := List.mem_map.1 hm
        have ⟨ho, hi⟩ := hh a id ha
        subst he
        exact known rfl ho hi

end Owners

section Run

variable {events : List (Event MemoryTap.Control)}

theorem ledger_run (features : TunFlags) (hf : ∀ frame ∈ events.flatMap Event.pushed, frame ≠ []) :
    let start : Host MemoryTap Nat := ofDevice (MemoryTap.ofFeatures features)
    (start.run events).Orderly ∧ Ledger (start.trace events) (start.run events) ∧
      Owned (start.trace events) (start.run events) ∧
      ∀ t ∈ start.trace events, t.source.Orderly := by
  intro start
  refine run_induction (P := fun ts h => h.Orderly ∧ Ledger ts h ∧ Owned ts h ∧
    ∀ t ∈ ts, t.source.Orderly) ?_ ?_
  case refine_1 =>
    intro ts t he _ ⟨o, l, w, ho⟩
    have hf' : ∀ frame ∈ t.event.pushed, frame ≠ [] :=
      fun frame hm => hf frame (List.mem_flatMap.2 ⟨t.event, he, hm⟩)
    refine ⟨o.step hf', l.concat o, w.concat o, ?_⟩
    intro t' hm
    cases List.mem_append.1 hm
    case inl hm => exact ho t' hm
    case inr hm => exact List.mem_singleton.1 hm ▸ o
  case refine_2 =>
    refine ⟨⟨provided_ofDevice _, MemoryTap.distinct_ofFeatures features, ?_⟩, .start features, ?_,
      List.forall_mem_nil _⟩
    case refine_1 => exact nofun
    case refine_2 => exact ⟨fun _ => (0, 0), nofun, nofun⟩

theorem Orderly.thorough {t : Transition MemoryTap Nat MemoryTap.Control} (o : t.source.Orderly) :
    t.Thorough := by
  intro place q n bs ps p id pool he hp hh hq r
  have ⟨room, hr, hf⟩ := o.fits p (List.mem_of_getElem? hp) q pool hq
  have ⟨k, _, hk, hc, hd, hb⟩ :=
    MemoryTap.rx_waiting bs n hh hq o.distinct.nodup o.sound hr hf (o.waiting id)
  refine ⟨hc.trans hk, ?_, ?_⟩
  case refine_1 =>
    have hl : k ≤ (t.source.dev.framesOf id).length := by omega
    rw [hb, hc, List.length_append, List.length_map, List.length_take_of_le hl]
  case refine_2 =>
    rw [hd, hc, MemoryTap.framesOf_consume_self]

-- As far as there is room for the counts of the device, every frame that is pushed is delivered,
-- waits, or was dropped when it had no queue left. Each queue of the device delivers the frames
-- that are placed on it, in order and each of them once, to one queue of one port, whatever becomes
-- of the others. A burst stops short of what it was asked for only where no buffer is left or no
-- frame waits, and leaves in place what it does not take.
theorem delivered_of_run (features : TunFlags) {events : List (Event MemoryTap.Control)}
    (hf : ∀ frame ∈ events.flatMap Event.pushed, frame ≠ []) :
    let start : Host MemoryTap Nat := ofDevice (MemoryTap.ofFeatures features)
    let dev := (start.run events).dev
    let ts := start.trace events
    dev.opens < UInt32.size ∧ dev.dropped < UInt64.size ∧
      (ts.flatMap (·.event.pushed)).length =
        (ts.flatMap (·.delivered)).length + dev.pending + dev.dropped ∧
      (∀ id, ∃ got rest, ts.flatMap (·.placed id) = got ++ rest ∧
        List.Forall₂ Buffer.Carries got (deliveredBy id ts) ∧
        (id ∈ dev.attached → dev.framesOf id = rest)) ∧
      (∀ x ∈ ts.flatMap (·.delivered), x.handle ≠ none ∧ ∀ y ∈ ts.flatMap (·.delivered),
        x.handle = y.handle → x.place = y.place ∧ x.queue = y.queue) ∧
      ∀ t ∈ ts, t.Thorough := by
  intro start dev ts
  have ⟨_, l, w, ho⟩ := ledger_run features hf
  have ⟨hn, _, hl⟩ := MemoryTap.fits_iff.1 (fits_run features events)
  refine ⟨hn, hl, l.total, l.queues, ?_, fun t hm => (ho t hm).thorough⟩
  have ⟨owner, _, hx⟩ := w
  intro x hm
  have ⟨id, hi, hq, _⟩ := hx x hm
  refine ⟨by simp [hi], ?_⟩
  intro y hm' he
  have ⟨id', hi', hq', _⟩ := hx y hm'
  rw [hi, hi'] at he
  cases he
  exact Prod.mk.inj (hq.symm.trans hq')

-- Three queues share a pool of two buffers. The first queue is closed with a frame on it, so that
-- the last one moves to its slot, and a burst on that one has to leave a frame until it gets a
-- buffer back.
def sampleEvents : List (Event MemoryTap.Control) :=
  [.addPool "m" 2 2048, .make "a" "dtap0" 0 ⟨none, Link.defaultSpeed, 3, 0⟩,
    .port 0 (.setUpRx 0 0 []), .port 0 (.setUpRx 1 0 []), .port 0 (.setUpRx 2 0 []),
    .control (.steer MemoryTap.byFirstOctet), .control (.push [0, 1] 1), .control (.push [1, 1] 1),
    .control (.push [2, 1] 3), .port 0 (.releaseRx 0), .control (.push [0, 2] 1),
    .port 0 (.rx 2 8 [] []), .put 0 (Bytes.zeros 2048), .port 0 (.rx 2 8 [] [])]

theorem delivered_of_run_moved :
    let start : Host MemoryTap Nat := ofDevice (MemoryTap.ofFeatures MemoryTap.defaultFeatures)
    let ts := start.trace sampleEvents
    (∀ frame ∈ sampleEvents.flatMap Event.pushed, frame ≠ []) ∧
      (ts.flatMap (·.delivered)).length = 3 ∧ (start.run sampleEvents).dev.pending = 2 ∧
      (start.run sampleEvents).dev.dropped = 1 ∧
      ∃ got rest, ts.flatMap (·.placed 3) = got ++ rest ∧
        List.Forall₂ Buffer.Carries got (deliveredBy 3 ts) ∧ rest = [[0, 2]] := by
  intro start ts
  have hf : ∀ frame ∈ sampleEvents.flatMap Event.pushed, frame ≠ [] := by decide
  have ha : 3 ∈ (start.run sampleEvents).dev.attached := by decide +kernel
  have hw : (start.run sampleEvents).dev.framesOf 3 = [[0, 2]] := by decide +kernel
  have ⟨got, rest, hp, hg, hr⟩ := (delivered_of_run MemoryTap.defaultFeatures hf).2.2.2.1 3
  exact ⟨hf, by decide +kernel, by decide +kernel, by decide +kernel, got, rest, hp, hg,
    (hr ha).symm.trans hw⟩

end Run

end Host

end TapPort
