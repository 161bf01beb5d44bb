import TapPort.Proofs.Device.Memory
import TapPort.Proofs.Pool.Scrubbing
import TapPort.Proofs.Port.Machine

namespace TapPort

variable {κ δ χ ρ : Type}

namespace Port

-- The operation on these pools, whatever pools it names.
def Op.over (pools : Pools) : Op → Op
  | .setUpRx q pool _ => .setUpRx q pool pools
  | .rx q n bs _ => .rx q n bs pools
  | .tx q bs _ => .tx q bs pools
  | op => op

theorem Op.pools_over {op : Op} {ps pools : Pools} {q : Nat} {pool : PoolId}
    (h : op.over ps = .setUpRx q pool pools) : pools = ps := by
  cases op <;> cases h
  rfl

-- The pools as an operation on them leaves them.
def poolsAfter [Device δ κ] (p : Port κ) (dev : δ) (pools : Pools) : Op → Pools
  | .rx q n bs _ => (p.rx q bs n dev pools).pools
  | .tx q bs _ => (p.tx q bs dev pools).pools
  | _ => pools

end Port

structure Host (δ κ : Type) where
  dev : δ
  ports : List (Port κ)
  pools : Pools

namespace Host

-- What happens on a host: ports are made and used, somebody controls the device, and somebody makes
-- pools and has storages from them without a port.
inductive Event (χ : Type) where
  | make (name iface : String) (id : UInt16) (args : PortArgs)
  | port (place : Nat) (op : Port.Op)
  | control (c : χ)
  | addPool (name : String) (capacity room : Nat)
  | take (pool : PoolId)
  | put (pool : PoolId) (storage : Bytes)

def ofDevice (dev : δ) : Host δ κ := ⟨dev, [], []⟩

section Run

variable [Device δ κ] [Controlled δ χ ρ]

def stepPort (h : Host δ κ) (place : Nat) (p : Port κ) (op : Port.Op) : Host δ κ where
  dev := (p.step h.dev (op.over h.pools)).dev
  ports := h.ports.set place (p.step h.dev (op.over h.pools)).port
  pools := p.poolsAfter h.dev h.pools op

def step (h : Host δ κ) : Event χ → Host δ κ
  | .make name iface id args =>
    match Port.create name iface id args h.dev with
    | (.ok p, dev) => { h with dev, ports := h.ports ++ [p] }
    | (.error _, dev) => { h with dev }
  | .port place op =>
    match h.ports[place]? with
    | some p => h.stepPort place p op
    | none => h
  | .control c => { h with dev := (Controlled.control c h.dev).2 }
  | .addPool name capacity room =>
    { h with pools := h.pools ++ [Pool.ofCapacity name capacity room] }
  | .take pool => { h with pools := (h.pools.take pool).2 }
  | .put pool storage => { h with pools := h.pools.put pool storage }

-- Goes through events in order, up to one that leaves no room for a count of the device.
def run (h : Host δ κ) : List (Event χ) → Host δ κ
  | [] => h
  | e :: rest => if Device.halted (h.step e).dev then h else run (h.step e) rest

-- An event, and the host that it meets.
structure Transition (δ κ χ : Type) where
  source : Host δ κ
  event : Event χ

def Transition.target (t : Transition δ κ χ) : Host δ κ := t.source.step t.event

-- The transitions of a run in order.
def trace (h : Host δ κ) : List (Event χ) → List (Transition δ κ χ)
  | [] => []
  | e :: rest => if Device.halted (h.step e).dev then [] else ⟨h, e⟩ :: trace (h.step e) rest

section Induction

variable {P : List (Transition δ κ χ) → Host δ κ → Prop} {h : Host δ κ} {events : List (Event χ)}

theorem run_after
    (hs : ∀ ts t, t.event ∈ events → Device.halted t.target.dev = false → P ts t.source →
      P (ts ++ [t]) t.target)
    (before : List (Transition δ κ χ)) (hp : P before h) :
    P (before ++ h.trace events) (h.run events) := by
  induction events generalizing h before
  case nil => rwa [trace, List.append_nil]
  case cons e events ih =>
    simp only [trace, run]
    split
    case isTrue => rwa [List.append_nil]
    case isFalse hh =>
      have ht := hs before ⟨h, e⟩ List.mem_cons_self (Bool.not_eq_true _ ▸ hh) hp
      have ha := ih (fun ts t hm => hs ts t (List.mem_cons_of_mem _ hm)) (before ++ [⟨h, e⟩]) ht
      rwa [List.append_assoc] at ha

-- What holds of a host, and of the transitions that led to it, holds after a run if each transition
-- keeps it.
theorem run_induction
    (hs : ∀ ts t, t.event ∈ events → Device.halted t.target.dev = false → P ts t.source →
      P (ts ++ [t]) t.target)
    (hp : P [] h) : P (h.trace events) (h.run events) :=
  run_after hs [] hp

theorem not_halted_run (hh : Device.halted h.dev = false) :
    Device.halted (h.run events).dev = false :=
  run_induction (P := fun _ h => Device.halted h.dev = false) (fun _ _ _ hh _ => hh) hh

end Induction

theorem trace_append {h : Host δ κ} {events : List (Event χ)}
    (hl : (h.trace events).length = events.length) (events' : List (Event χ)) :
    h.trace (events ++ events') = h.trace events ++ (h.run events).trace events' := by
  induction events generalizing h
  case nil => rfl
  case cons e events ih =>
    simp only [List.cons_append, trace, run] at hl ⊢
    split at hl
    case isTrue => cases hl
    case isFalse hh =>
      rw [if_neg hh, if_neg hh, if_neg hh, ih (Nat.succ.inj hl), List.cons_append]

-- A run ends early only before an event that leaves no room for a count.
theorem events_eq_or (h : Host δ κ) (events : List (Event χ)) :
    (h.trace events).map (·.event) = events ∨
      ∃ e rest, events = (h.trace events).map (·.event) ++ e :: rest ∧
        Device.halted ((h.run events).step e).dev = true := by
  induction events generalizing h
  case nil => exact .inl rfl
  case cons e events ih =>
    simp only [trace, run]
    split
    case isTrue hh => exact .inr ⟨e, events, rfl, hh⟩
    case isFalse =>
      cases ih (h.step e)
      case inl he => exact .inl (congrArg (e :: ·) he)
      case inr hr =>
        have ⟨e', rest, he, hh⟩ := hr
        exact .inr ⟨e', rest, congrArg (e :: ·) he, hh⟩

theorem target_port {h : Host δ κ} {place : Nat} {p : Port κ} (hp : h.ports[place]? = some p)
    (op : Port.Op) :
    (⟨h, .port place op⟩ : Transition δ κ χ).target = h.stepPort place p op := by
  simp [Transition.target, step, hp]

end Run

end Host

namespace Port

variable [Device δ κ] {p : Port κ} {dev : δ} {q : Nat} {pool : PoolId}

-- A queue has its pool from the last operation that bound one to it.
theorem poolOf_step {op : Op} (h : (p.step dev op).port.poolOf q = some pool) :
    p.poolOf q = some pool ∨
      ∃ pools, op = .setUpRx q pool pools ∧ (p.step dev op).succeeded = true := by
  change (p.step dev op).port.view.pool q = some pool at h
  rw [view_step] at h
  split at h
  case isFalse => exact .inl h
  case isTrue hs =>
    cases op <;> simp only [Machine.next] at h
    case setUpRx i pool' pools =>
      by_cases hi : q = i
      case pos =>
        subst hi
        rw [Function.update_self] at h
        cases h
        exact .inr ⟨pools, rfl, hs⟩
      case neg =>
        rw [Function.update_of_ne hi] at h
        exact .inl h
    case releaseRx i =>
      by_cases hi : q = i
      case pos =>
        rw [hi, Function.update_self] at h
        cases h
      case neg =>
        rw [Function.update_of_ne hi] at h
        exact .inl h
    case stop | close | shutdown => split at h <;> exact .inl h
    all_goals exact .inl h

theorem room_of_setUpRx {pools : Pools}
    (h : (p.step dev (.setUpRx q pool pools)).succeeded = true) :
    Frame.receiveRoom ≤ (pools[pool]?.map Pool.usableRoom).getD 0 := by
  by_contra hr
  rw [step, setUpRx] at h
  split at h
  case h_1 => cases h
  case h_2 =>
    rw [if_pos (Nat.lt_of_not_le hr)] at h
    cases h

end Port

namespace Pools

variable {ps ps' : Pools} {id : PoolId}

-- That a frame fits into the buffers of a pool.
def Fits (ps : Pools) (id : PoolId) : Prop :=
  ∃ room, ps[id]?.map Pool.room = some room ∧ headroom < room

theorem fits_of_usableRoom (h : Frame.receiveRoom ≤ (ps[id]?.map Pool.usableRoom).getD 0) :
    ps.Fits id := by
  cases hp : ps[id]?
  case none =>
    rw [hp] at h
    exact absurd h (by decide)
  case some p =>
    rw [hp] at h
    have hr : 0 < Frame.receiveRoom := by decide
    refine ⟨p.room, by rw [hp]; rfl, Nat.lt_of_sub_pos (Nat.lt_of_lt_of_le hr h)⟩

-- That there are the pools that there were, and maybe some more.
def Grown (ps ps' : Pools) : Prop :=
  ∃ made, ps'.map Pool.refilled = ps.map Pool.refilled ++ made

theorem Grown.ofSame (h : ps'.map Pool.refilled = ps.map Pool.refilled) : ps.Grown ps' :=
  ⟨[], h.trans (List.append_nil _).symm⟩

theorem Grown.fits (h : ps.Grown ps') (hf : ps.Fits id) : ps'.Fits id := by
  have ⟨made, he⟩ := h
  have ⟨room, hp, hr⟩ := hf
  refine ⟨room, ?_, hr⟩
  rw [room_refilled] at hp ⊢
  have ⟨p, hp', _⟩ := Option.map_eq_some_iff.1 hp
  rwa [he, List.getElem?_append_left (List.getElem?_eq_some_iff.1 hp').1]

end Pools

namespace Host

variable [Device δ κ] [Controlled δ χ ρ] {h : Host δ κ}

-- That the pools are sound, and those that are received into take a frame.
structure Provided (h : Host δ κ) : Prop where
  sound : h.pools.Sound
  fits : ∀ p ∈ h.ports, ∀ q pool, p.poolOf q = some pool → h.pools.Fits pool

theorem grown_step (h : Host δ κ) (e : Event χ) : h.pools.Grown (h.step e).pools := by
  cases e
  case make name iface id args =>
    simp only [step]
    split <;> exact .ofSame rfl
  case port place op =>
    simp only [step]
    split
    case h_2 => exact .ofSame rfl
    case h_1 p _ =>
      cases op
      case rx q n bs _ => exact .ofSame (p.trades_rx q bs n h.dev h.pools).same
      case tx q bs _ => exact .ofSame (p.trades_tx q bs h.dev h.pools).same
      all_goals exact .ofSame rfl
  case control => exact .ofSame rfl
  case addPool name capacity room => exact ⟨_, List.map_append⟩
  case take pool => exact .ofSame (Pools.Trades.alloc pool h.pools).same
  case put pool storage =>
    exact .ofSame (map_modify (fun p => p.refilled_put storage) h.pools pool)

theorem Provided.sound_step (hp : h.Provided) (e : Event χ) : (h.step e).pools.Sound := by
  cases e
  case make name iface id args =>
    simp only [step]
    split <;> exact hp.sound
  case port place op =>
    simp only [step]
    split
    case h_2 => exact hp.sound
    case h_1 p _ =>
      cases op
      case rx q n bs _ => exact hp.sound.rx p q n bs h.dev
      case tx q bs _ => exact hp.sound.tx p q bs h.dev
      all_goals exact hp.sound
  case control => exact hp.sound
  case addPool name capacity room => exact hp.sound.addPool name capacity room
  case take pool => exact hp.sound.take pool
  case put pool storage => exact hp.sound.put pool storage

theorem Provided.step (hp : h.Provided) (e : Event χ) : (h.step e).Provided := by
  refine ⟨hp.sound_step e, ?_⟩
  intro p hm q pool hq
  have old {p : Port κ} (hm : p ∈ h.ports) (hq : p.poolOf q = some pool) :
      (h.step e).pools.Fits pool :=
    (h.grown_step e).fits (hp.fits p hm q pool hq)
  cases e
  case make name iface id args =>
    simp only [Host.step] at hm old ⊢
    split at hm
    case h_2 he =>
      rw [he] at old
      exact old hm hq
    case h_1 p' _ he =>
      rw [he] at old
      cases List.mem_append.1 hm
      case inl hm => exact old hm hq
      case inr hm =>
        have hn : p'.poolOf q = none := Port.Made.poolOf_eq ⟨name, iface, id, args, _, _, he⟩ q
        cases List.mem_singleton.1 hm
        cases hn.symm.trans hq
  case port place op =>
    have hg := h.grown_step (.port place op)
    simp only [Host.step] at hm old hg ⊢
    cases hp₀ : h.ports[place]?
    case none =>
      rw [hp₀] at hm old
      exact old hm hq
    case some p₀ =>
      rw [hp₀] at hm old hg
      cases List.mem_or_eq_of_mem_set hm
      case inl hm => exact old hm hq
      case inr he =>
        rw [he] at hq
        cases Port.poolOf_step hq
        case inl hq => exact old (List.mem_of_getElem? hp₀) hq
        case inr hs =>
          have ⟨pools, ho, hs⟩ := hs
          rw [ho] at hs
          have hr := Port.room_of_setUpRx hs
          rw [Port.Op.pools_over ho] at hr
          exact hg.fits (Pools.fits_of_usableRoom hr)
  all_goals exact old hm hq

theorem Provided.run (hp : h.Provided) (events : List (Event χ)) : (h.run events).Provided :=
  run_induction (P := fun _ h => h.Provided) (fun _ t _ _ hp => hp.step t.event) hp

omit [Device δ κ] in
theorem provided_ofDevice (dev : δ) : (ofDevice dev : Host δ κ).Provided :=
  ⟨List.forall_mem_nil _, List.forall_mem_nil _⟩

-- A custody is kept by whatever happens on a host.
theorem custody_step {Holds : δ → List κ → Prop} (c : Custody Holds)
    (hc : ∀ (x : χ) (d : δ) (hs : List κ), Holds d hs → Holds (Controlled.control x d).2 hs)
    (e : Event χ) (hd : Holds h.dev (h.ports.flatMap Port.handles)) :
    Holds (h.step e).dev ((h.step e).ports.flatMap Port.handles) := by
  cases e
  case make name iface id args =>
    have hm := Port.create_making name iface id args h.dev
    simp only [step]
    split
    case h_1 he =>
      rw [he] at hm
      rw [List.flatMap_append, List.flatMap_singleton]
      exact c.perm List.perm_append_comm (c.making_ok hm hd)
    case h_2 he =>
      rw [he] at hm
      exact c.making_error hm hd
  case port place op =>
    simp only [step]
    split
    case h_1 p hp =>
      obtain ⟨hl, he⟩ := List.getElem?_eq_some_iff.1 hp
      have ho := (List.getElem_cons_eraseIdx_perm hl).flatMap_right Port.handles
      have hn := (List.set_perm_cons_eraseIdx hl
        (p.step h.dev (op.over h.pools)).port).flatMap_right Port.handles
      rw [he, List.flatMap_cons] at ho
      exact c.perm hn.symm (c.step _ (c.perm ho.symm hd))
    case h_2 => exact hd
  case control x => exact hc x _ _ hd
  case addPool | take | put => exact hd

theorem custody_run {Holds : δ → List κ → Prop} (c : Custody Holds)
    (hc : ∀ (x : χ) (d : δ) (hs : List κ), Holds d hs → Holds (Controlled.control x d).2 hs)
    (events : List (Event χ)) (hd : Holds h.dev (h.ports.flatMap Port.handles)) :
    Holds (h.run events).dev ((h.run events).ports.flatMap Port.handles) := by
  exact run_induction (P := fun _ h => Holds h.dev (h.ports.flatMap Port.handles))
    (fun _ t _ _ hd => custody_step c hc t.event hd) hd

section Memory

variable (features : TunFlags) (events : List (Event MemoryTap.Control))

theorem fits_run :
    ((ofDevice (MemoryTap.ofFeatures features) : Host MemoryTap Nat).run events).dev.fits = true :=
  MemoryTap.not_halted_iff.1 (not_halted_run rfl)

theorem serves_run :
    let h : Host MemoryTap Nat := (ofDevice (MemoryTap.ofFeatures features)).run events
    h.dev.Serves (h.ports.flatMap Port.handles) :=
  custody_run MemoryTap.custody_serves (fun c _ _ hs => hs.control c) events
    (MemoryTap.serves_ofFeatures features)

end Memory

end Host

end TapPort
