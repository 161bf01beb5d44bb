import TapPort.Proofs.Device.Memory
import TapPort.Proofs.Host.Basic
import TapPort.Proofs.Session.Moves

namespace TapPort

variable {κ δ χ ρ : Type} [Device δ κ] [Controlled δ χ ρ]

namespace Host

-- That something may happen on a host by which it becomes another one.
def Leads (h h' : Host δ κ) : Prop := ∃ events : List (Event χ), events.foldl step h = h'

-- A host with a port put into a place.
def withPort (ports : List (Port κ)) (place : Nat) (p : Port κ) (dev : δ) (pools : Pools) :
    Host δ κ :=
  ⟨dev, ports.set place p, pools⟩

namespace Leads

variable {h h' h'' : Host δ κ}

theorem refl (h : Host δ κ) : h.Leads h := ⟨[], rfl⟩

theorem append (l : h.Leads h') (e : Event χ) : h.Leads (h'.step e) := by
  have ⟨events, he⟩ := l
  exact ⟨events ++ [e], he ▸ List.foldl_concat step h e events⟩

theorem trans (l : h.Leads h') (l' : h'.Leads h'') : h.Leads h'' := by
  have ⟨events, he⟩ := l
  have ⟨events', he'⟩ := l'
  exact ⟨events ++ events', by rw [List.foldl_append, he, he']⟩

section Pools

theorem releaseAll (l : h.Leads h') (bs : List Buffer) :
    h.Leads { h' with pools := Buffer.releaseAll bs h'.pools } := by
  induction bs generalizing h'
  case nil => exact l
  case cons b bs ih => exact ih (l.append (.put b.pool b.storage))

theorem alloc (l : h.Leads h') (pool : PoolId) :
    h.Leads { h' with pools := (Buffer.alloc pool h'.pools).2 } :=
  l.append (.take pool)

theorem ofBytes (l : h.Leads h') (pool : PoolId) (octets : Bytes) :
    h.Leads { h' with pools := (Buffer.ofBytes pool octets h'.pools).2 } := by
  have la := l.alloc pool
  simp only [Buffer.ofBytes]
  split
  case h_1 he =>
    rw [he] at la
    exact la
  case h_2 b _ he =>
    rw [he] at la
    split
    case h_1 => exact la
    case h_2 => exact la.append (.put b.pool b.storage)

theorem fill (l : h.Leads h') (pool : PoolId) (frame : Bytes) (n : Nat) (made : List Buffer) :
    h.Leads { h' with pools := (Stock.fill pool frame n h'.pools made).2 } := by
  induction n generalizing h' made
  case zero => exact l
  case succ n ih =>
    have lo := l.ofBytes pool frame
    simp only [Stock.fill]
    split
    case h_1 he =>
      rw [he] at lo
      exact ih lo _
    case h_2 he =>
      rw [he] at lo
      exact lo

theorem stock (dev : δ) (ports : List (Port κ)) (s : Stock) (op : Stock.Op) :
    (⟨dev, ports, s.pools⟩ : Host δ κ).Leads ⟨dev, ports, (s.step op).2.pools⟩ := by
  have l := refl (⟨dev, ports, s.pools⟩ : Host δ κ)
  cases op
  case pool name capacity room => exact l.append (.addPool name capacity room)
  case framePool name capacity => exact l.append (.addPool name capacity _)
  case make number list frame n =>
    simp only [Stock.step]
    split
    case h_1 => exact l
    case h_2 pool _ =>
      have lf := l.fill pool frame n []
      split
      case h_1 hm | h_2 hm =>
        rw [hm] at lf
        exact lf
  case drop list n => exact l.releaseAll _
  case contents => exact l

end Pools

section Port

variable {ports : List (Port κ)} {place : Nat} {p p' : Port κ} {dev dev' : δ} {pools : Pools}

theorem op (l : h.Leads (withPort ports place p dev pools)) (hl : place < ports.length)
    (op : Port.Op) {e : Port.Effect κ δ} (he : p.step dev (op.over pools) = e) :
    h.Leads (withPort ports place e.port e.dev (p.poolsAfter dev pools op)) := by
  have ls := l.append (.port place op)
  have hp : (ports.set place p)[place]? = some p := List.getElem?_set_self hl
  simpa only [step, withPort, hp, stepPort, List.set_set, he] using ls

theorem configure (l : h.Leads (withPort ports place p dev pools)) (hl : place < ports.length)
    {conf : DevConf} (hc : p.configure conf = .ok p') :
    h.Leads (withPort ports place p' dev pools) :=
  l.op hl (.configure conf) (congrArg (fun r => Port.Effect.ofChange p (r, dev)) hc)

theorem start (l : h.Leads (withPort ports place p dev pools)) (hl : place < ports.length)
    (hs : p.start = .ok p') : h.Leads (withPort ports place p' dev pools) :=
  l.op hl .start (congrArg (fun r => Port.Effect.ofChange p (r, dev)) hs)

theorem setUpRx (l : h.Leads (withPort ports place p dev pools)) (hl : place < ports.length)
    {q : Nat} {pool : PoolId} {r : Except Error (Port κ) × δ}
    (hr : p.setUpRx q pool pools dev = r) :
    h.Leads (withPort ports place (Port.Effect.ofChange p r).port (Port.Effect.ofChange p r).dev
      pools) :=
  l.op hl (.setUpRx q pool pools) (hr ▸ rfl)

theorem setUpTx (l : h.Leads (withPort ports place p dev pools)) (hl : place < ports.length)
    {q : Nat} {r : Except Error (Port κ) × δ} (hr : p.setUpTx q dev = r) :
    h.Leads (withPort ports place (Port.Effect.ofChange p r).port (Port.Effect.ofChange p r).dev
      pools) :=
  l.op hl (.setUpTx q) (hr ▸ rfl)

theorem equip (l : h.Leads (withPort ports place p dev pools)) (hl : place < ports.length)
    (size : Nat) (qs : List Nat) (made : List PoolId) :
    let b := Port.equip size qs made p dev pools
    h.Leads (withPort ports place b.port b.dev b.pools) := by
  induction qs generalizing p dev pools made
  case nil => exact l
  case cons q qs ih =>
    have la := l.append (.addPool (p.poolName q) size Port.poolRoom)
    simp only [Port.equip]
    split
    case h_1 hr => exact Leads.setUpRx la hl hr
    case h_2 hr =>
      have lr := Leads.setUpRx la hl hr
      split
      case h_1 ht => exact lr.setUpTx hl ht
      case h_2 ht => exact ih (lr.setUpTx hl ht) _

theorem share (l : h.Leads (withPort ports place p dev pools)) (hl : place < ports.length)
    {pool : PoolId} {qs : List Nat} (hs : Port.share pool pools qs p dev = (.ok p', dev')) :
    h.Leads (withPort ports place p' dev' pools) := by
  induction qs generalizing p dev
  case nil =>
    cases hs
    exact l
  case cons q qs ih =>
    simp only [Port.share] at hs
    split at hs
    case h_1 => cases hs
    case h_2 hr =>
      have lr := l.setUpRx hl hr
      split at hs
      case h_1 => cases hs
      case h_2 ht => exact ih (lr.setUpTx hl ht) hs

theorem bringUp (l : h.Leads (withPort ports place p dev pools)) (hl : place < ports.length)
    (size : Nat) :
    let b := p.bringUp size dev pools
    h.Leads (withPort ports place b.port b.dev b.pools) := by
  simp only [Port.bringUp]
  split
  case h_1 => exact l
  case h_2 p' hc =>
    have le := (l.configure hl hc).equip hl size (List.range p'.queueCount) []
    split
    case h_1 he =>
      rw [he] at le
      exact le
    case h_2 he =>
      rw [he] at le
      split
      case h_1 => exact le
      case h_2 hs => exact le.start hl hs

theorem startShared (l : h.Leads (withPort ports place p dev pools)) (hl : place < ports.length)
    {pool : PoolId} (hs : p.startShared pool pools dev = (.ok p', dev')) :
    h.Leads (withPort ports place p' dev' pools) := by
  simp only [Port.startShared] at hs
  split at hs
  case h_1 => cases hs
  case h_2 hc =>
    split at hs
    case h_1 => cases hs
    case h_2 p₂ dev₂ he =>
      have le := (l.configure hl hc).share hl he
      cases hr : p₂.start
      all_goals
        rw [hr] at hs
        cases hs
      exact le.start hl hr

theorem pollQueue {r : Port.Round κ δ} (l : h.Leads (withPort ports place r.port r.dev r.pools))
    (hl : place < ports.length) (burst : Nat) (reflect : Bool) (q : Nat) :
    let r := Port.pollQueue burst reflect r q
    h.Leads (withPort ports place r.port r.dev r.pools) := by
  have lr := l.op hl (.rx q burst [] []) rfl
  simp only [Port.pollQueue]
  split
  case isTrue => exact (Leads.op lr hl (.tx q _ []) rfl).releaseAll _
  case isFalse => exact lr.releaseAll _

theorem poll (l : h.Leads (withPort ports place p dev pools)) (hl : place < ports.length)
    (burst : Nat) (reflect : Bool) :
    let r := p.poll burst reflect dev pools
    h.Leads (withPort ports place r.port r.dev r.pools) := by
  have hf (qs : List Nat) (r : Port.Round κ δ)
      (l : h.Leads (withPort ports place r.port r.dev r.pools)) :
      let r := qs.foldl (Port.pollQueue burst reflect) r
      h.Leads (withPort ports place r.port r.dev r.pools) := by
    induction qs generalizing r
    case nil => exact l
    case cons q qs ih => exact ih _ (l.pollQueue hl burst reflect q)
  exact hf _ _ l

end Port

end Leads

theorem Leads.at {h : Host δ κ} {place : Nat} {p : Port κ} (hp : h.ports[place]? = some p) :
    h.Leads (withPort h.ports place p h.dev h.pools) := by
  have ⟨hl, he⟩ := List.getElem?_eq_some_iff.1 hp
  rw [withPort, ← he, List.set_getElem_self]
  exact .refl h

theorem Leads.making {h : Host δ κ} {name iface : String} {id : UInt16} {args : PortArgs}
    {r : Except Error (Port κ) × δ} (hm : Port.create name iface id args h.dev = r) :
    h.Leads { h with dev := r.2, ports := h.ports ++ r.1.toOption.toList } := by
  have l := (Leads.refl h).append (.make name iface id args)
  simp only [step, hm] at l
  rcases r with ⟨_ | p, dev⟩
  case error => simpa [Except.toOption] using l
  case ok => simpa [Except.toOption] using l

section Counts

variable {h : Host MemoryTap Nat} {events : List (Event MemoryTap.Control)}

theorem grows_step (h : Host MemoryTap Nat) (e : Event MemoryTap.Control) :
    h.dev.Grows (h.step e).dev :=
  custody_step (MemoryTap.custody_grows h.dev) (fun x _ _ g => g.control x) e (.refl h.dev)

theorem fits_of_foldl (hf : (events.foldl step h).dev.fits = true) : h.dev.fits = true := by
  induction events generalizing h
  case nil => exact hf
  case cons e events ih => exact (h.grows_step e).fits (ih hf)

-- Counts never go back, so a run is complete if there is room for them at the end.
theorem run_eq_foldl (hf : (events.foldl step h).dev.fits = true) :
    h.run events = events.foldl step h := by
  induction events generalizing h
  case nil => rfl
  case cons e events ih =>
    have hh := MemoryTap.not_halted_iff.2 (fits_of_foldl (h := h.step e) hf)
    rw [run, if_neg (Bool.not_eq_true _ ▸ hh), ih hf, List.foldl_cons]

end Counts

end Host

namespace Registry

-- The host of a registry and of some pools.
def host (r : Registry δ κ) (pools : Pools) : Host δ κ := ⟨r.dev, r.ports, pools⟩

variable (r : Registry δ κ) (pools : Pools)

theorem leads_probe (name : String) (args : PortArgs) :
    (r.host pools).Leads ((r.probe name args).2.host pools) := by
  have hp := r.probe_probing name args
  generalize r.probe name args = result at hp
  cases hp
  case refused => exact .refl _
  case failed m =>
    have l := Host.Leads.making (h := r.host pools) m.create_eq
    simpa [Except.toOption, host] using l
  case made m => exact Host.Leads.making (h := r.host pools) m.create_eq

theorem leads_probeText (name text : String) :
    (r.host pools).Leads ((r.probeText name text).2.host pools) := by
  simp only [probeText]
  split
  case h_1 => exact .refl _
  case h_2 => exact r.leads_probe pools ..

theorem leads_create (name iface : String) (id : UInt16) (args : PortArgs) :
    (r.host pools).Leads ((r.create name iface id args).2.host pools) := by
  simp only [create]
  split
  case h_1 hm =>
    have l := Host.Leads.making (h := r.host pools) hm
    simpa [Except.toOption, host] using l
  case h_2 hm => exact Host.Leads.making (h := r.host pools) hm

theorem leads_remove (name : String) : (r.host pools).Leads ((r.remove name).host pools) := by
  simp only [remove]
  split
  case h_1 => exact .refl _
  case h_2 place _ =>
    split
    case h_1 => exact .refl _
    case h_2 hp =>
      have hl := (List.getElem?_eq_some_iff.1 hp).1
      exact (Host.Leads.at (h := r.host pools) hp).op hl .shutdown rfl

end Registry

namespace Session

variable {s s' : Session δ κ} {place : Nat} {p : Port κ}

-- The host of a session.
def host (s : Session δ κ) : Host δ κ := s.registry.host s.stock.pools

theorem leads_of_some {r : Reply ρ × Session δ κ} {reply : Reply ρ} (h : some r = some (reply, s'))
    (l : s.host.Leads r.2.host) : s.host.Leads s'.host := by
  cases h
  exact l

-- An operation that is not a burst leaves the pools as they are.
theorem leads_op {op : Port.Op} {e : Port.Effect κ δ} (hp : s.registry.ports[place]? = some p)
    (hs : p.step s.registry.dev (op.over s.stock.pools) = e)
    (hr : p.poolsAfter s.registry.dev s.stock.pools op = s.stock.pools) :
    s.host.Leads (s.setPort place e.port e.dev).host := by
  have l := (Host.Leads.at (h := s.host) hp).op (List.getElem?_eq_some_iff.1 hp).1 op hs
  change s.host.Leads (Host.withPort _ _ _ _ (p.poolsAfter s.registry.dev s.stock.pools op)) at l
  rwa [hr] at l

theorem leads_changed {r : Except Error (Port κ) × δ} (op : Port.Op)
    (hp : s.registry.ports[place]? = some p)
    (hs : p.step s.registry.dev (op.over s.stock.pools) = .ofChange p r)
    (hr : p.poolsAfter s.registry.dev s.stock.pools op = s.stock.pools) :
    s.host.Leads (s.changed (ρ := ρ) place p r).2.host := by
  have l := leads_op hp hs hr
  rcases r with ⟨_ | _, _⟩ <;> exact l

theorem leads_moved {r : Except Error (Port κ × δ)} (op : Port.Op)
    (hp : s.registry.ports[place]? = some p)
    (hs : p.step s.registry.dev (op.over s.stock.pools) = .ofMove p s.registry.dev r)
    (hr : p.poolsAfter s.registry.dev s.stock.pools op = s.stock.pools) :
    s.host.Leads (s.moved (ρ := ρ) place r).2.host := by
  have l := leads_op hp hs hr
  rcases r with _ | ⟨_, _⟩
  case error => exact .refl _
  case ok => exact l

theorem leads_stepPort {op : PortOp} {reply : Reply ρ} (hp : s.registry.ports[place]? = some p)
    (h : s.stepPort place p op = some (reply, s')) : s.host.Leads s'.host := by
  have hl := (List.getElem?_eq_some_iff.1 hp).1
  have l := Host.Leads.at (h := s.host) hp
  cases op
  case configure conf => exact leads_of_some h (leads_changed (.configure conf) hp rfl rfl)
  case start => exact leads_of_some h (leads_changed .start hp rfl rfl)
  case stop => exact leads_of_some h (leads_moved .stop hp rfl rfl)
  case close => exact leads_of_some h (leads_moved .close hp rfl rfl)
  case setUpRx q number =>
    simp only [stepPort] at h
    split at h
    case h_1 => exact leads_of_some h (.refl _)
    case h_2 pool _ => exact leads_of_some h (leads_changed (.setUpRx q pool []) hp rfl rfl)
  case setUpTx q => exact leads_of_some h (leads_changed (.setUpTx q) hp rfl rfl)
  case releaseRx q => exact leads_of_some h (leads_moved (.releaseRx q) hp rfl rfl)
  case releaseTx q => exact leads_of_some h (leads_moved (.releaseTx q) hp rfl rfl)
  case resetStats => exact leads_of_some h (leads_moved .resetStats hp rfl rfl)
  case rx q n list => exact leads_of_some h (l.op hl (.rx q n (s.stock.list list) []) rfl)
  case tx q list => exact leads_of_some h (l.op hl (.tx q (s.stock.list list) []) rfl)
  case table view =>
    obtain ⟨_, _, ht⟩ := Option.map_eq_some_iff.1 h
    exact leads_of_some (congrArg some ht) (.refl _)
  case bringUp size =>
    refine leads_of_some h ?_
    have lb := l.bringUp hl size
    simp only [afterBringUp]
    split <;> exact lb
  case startShared number =>
    simp only [stepPort] at h
    split at h
    case h_1 => exact leads_of_some h (.refl _)
    case h_2 =>
      split at h
      case h_1 => cases h
      case h_2 hs => exact leads_of_some h (l.startShared hl hs)
  case poll burst reflect => exact leads_of_some h (l.poll hl burst reflect)
  all_goals exact leads_of_some h (.refl _)

omit [Device δ κ] in
theorem host_afterMaking (s : Session δ κ) (r : Except Error Nat × Registry δ κ) :
    (s.afterMaking (ρ := ρ) r).2.host = r.2.host s.stock.pools := by
  simp only [afterMaking]
  split
  case h_1 => rfl
  case h_2 => split <;> rfl

theorem leads_attempt {op : Op χ} {reply : Reply ρ} (h : s.attempt op = some (reply, s')) :
    s.host.Leads s'.host := by
  cases op
  case probe name args =>
    refine leads_of_some h ?_
    rw [host_afterMaking]
    exact s.registry.leads_probe ..
  case probeText name text =>
    refine leads_of_some h ?_
    rw [host_afterMaking]
    exact s.registry.leads_probeText ..
  case create name iface id args =>
    refine leads_of_some h ?_
    rw [host_afterMaking]
    exact s.registry.leads_create ..
  case remove name => exact leads_of_some h (s.registry.leads_remove ..)
  case port place op =>
    simp only [attempt] at h
    split at h
    case h_1 => exact leads_of_some h (.refl _)
    case h_2 hp => exact leads_stepPort hp h
  case stock op => exact leads_of_some h (.stock s.registry.dev s.registry.ports s.stock op)
  case control c => exact leads_of_some h ((Host.Leads.refl s.host).append (.control c))
  all_goals exact leads_of_some h (.refl _)

theorem leads_run (s : Session δ κ) (ops : List (Op χ)) : s.host.Leads (s.run ops).host := by
  induction ops generalizing s
  case nil => exact .refl _
  case cons op ops ih =>
    simp only [run]
    split
    case h_1 hs => exact (leads_attempt (step_eq_some.1 hs).1).trans (ih _)
    case h_2 => exact .refl _

-- A session is a run of a host, which begins with what the session begins with.
theorem host_run {s : Session MemoryTap Nat} (hf : s.registry.dev.fits = true)
    (ops : List (Op MemoryTap.Control)) :
    ∃ events, s.host.run events = (s.run ops).host := by
  have ⟨events, he⟩ := s.leads_run ops
  have hr : Device.halted (s.run ops).registry.dev = false :=
    not_halted_run (MemoryTap.not_halted_iff.2 hf) ops
  refine ⟨events, (Host.run_eq_foldl ?_).trans he⟩
  rw [he]
  exact MemoryTap.not_halted_iff.1 hr

end Session

end TapPort
