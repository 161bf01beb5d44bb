import TapPort.Proofs.Device.Interface
import TapPort.Proofs.Port.Sound

namespace TapPort

namespace Port

open MemoryTap

-- How an operation of a port, beside others that hold the descriptors in `rest`, leaves the
-- interface and what the port knows of it: all stays the same where anybody holds a descriptor
-- afterwards, or the port opened its first queue.
inductive Knows (p : Port Nat) (d : MemoryTap) (rest : List Nat) (p' : Port Nat) (d' : MemoryTap) :
    Prop
  | kept :
    p'.ifIndex = p.ifIndex →
    p'.mac = p.mac →
    (p'.handles ≠ [] → p.handles ≠ []) →
    (p'.handles ++ rest ≠ [] → d.SameInterface d') →
    Knows p d rest p' d'
  | identified :
    p'.handles ≠ [] →
    p'.ifIndex = UInt32.ofNat d'.index →
    p'.mac = Address.app p.id p.numaNode →
    d'.address = Address.host p.id p.numaNode →
    (rest ≠ [] → d'.index = d.index) →
    Knows p d rest p' d'

variable {p p' : Port Nat} {dev dev' : MemoryTap} {rest : List Nat} {q : Nat}

namespace Knows

theorem same (h : dev.SameInterface dev') : p.Knows dev rest p dev' :=
  .kept rfl rfl (fun h => h) fun _ => h

theorem congr {p'' : Port Nat} (k : p.Knows dev rest p' dev') (hi : p''.ifIndex = p'.ifIndex)
    (hm : p''.mac = p'.mac) (hh : p''.handles = p'.handles) : p.Knows dev rest p'' dev' := by
  cases k
  case kept hi' hm' hn hs =>
    exact .kept (hi.trans hi') (hm.trans hm') (fun h => hn (hh ▸ h)) fun h => hs (hh ▸ h)
  case identified hn hi' hm' ha hr =>
    exact .identified (hh ▸ hn) (hi.trans hi') (hm.trans hm') ha hr

theorem opening_ok (hq : q < p.queueCount) (s : dev.Serves (p.handles ++ rest))
    (o : Opening p q dev (.ok p', dev')) : p.Knows dev rest p' dev' := by
  cases o
  case already => exact .same (.refl dev)
  case joined hc hz ho =>
    obtain ⟨flags, -, -, -, rfl⟩ := openQueue_ok ho
    have hh := openCount_pos.1 hz
    have hr := s.rings_ne_nil.2 (List.append_ne_nil_of_left_ne_nil hh rest)
    exact .kept rfl rfl (fun _ => hh) fun _ => same_attach hr flags _
  case identified h given _ mac ifIndex hc ho hz hi =>
    obtain ⟨flags, -, -, -, rfl⟩ := openQueue_ok ho
    obtain ⟨hm, hx, rfl⟩ := identify_ok hi
    have hp := handles_opened_perm (p := { p with mac, ifIndex }) (h := h) hq
      (queueIsOpen_eq_false.1 hc)
    refine .identified ?_ hx hm rfl ?_
    case refine_1 =>
      intro hz
      simp [hz] at hp
    case refine_2 =>
      intro hr
      have hr' := s.rings_ne_nil.2 (List.append_ne_nil_of_right_ne_nil p.handles hr)
      exact (same_attach hr' flags given).index

theorem opening_error {e : Error} (s : dev.Serves (p.handles ++ rest))
    (o : Opening p q dev (.error e, dev')) : p.Knows dev rest p dev' := by
  cases o
  case refused ho => exact .same (openQueue_error ho ▸ .refl dev)
  case unidentified ho _ hi =>
    obtain ⟨flags, -, rfl, -, rfl⟩ := openQueue_ok ho
    obtain rfl := identify_error hi
    exact .kept rfl rfl (fun h => h) fun hr => same_undone s hr flags _

theorem halt (s : dev.Serves (p.handles ++ rest)) (phase : Phase) :
    p.Knows dev rest (p.halt phase dev).1 (p.halt phase dev).2 := by
  have hh := handles_halt p phase dev
  rw [halt_eq] at hh ⊢
  refine .kept rfl rfl (fun hn => (hn hh).elim) ?_
  intro hr
  rw [hh] at hr
  exact same_closeAll s hr

theorem closeQueue (s : dev.Serves (p.handles ++ rest)) :
    p.Knows dev rest (p.modifyQueue q .unset) (Device.closeAll (p.handle? q).toList dev) := by
  have hp := p.handles_unset_perm q
  refine .kept rfl rfl ?_ ?_
  case refine_1 =>
    rintro hn hz
    rw [hz] at hp
    exact hn (List.append_eq_nil_iff.1 hp.nil_eq.symm).2
  case refine_2 =>
    intro hr
    replace hp := hp.append_right rest
    rw [List.append_assoc] at hp
    exact same_closeAll (custody_serves.perm hp s) hr

theorem course {op : Op} {e : Effect Nat MemoryTap} (s : dev.Serves (p.handles ++ rest))
    (c : Course p dev op e) : p.Knows dev rest e.port e.dev := by
  have same {d : MemoryTap} (h : dev.SameInterface d) : p.Knows dev rest p d := .same h
  cases c
  case refused | idle | configured | started => exact (same (.refl dev)).congr rfl rfl rfl
  case halted phase _ => exact .halt s phase
  case notOpened o _ => exact .opening_error s o
  case openedRx pool _ _ hq o => exact (opening_ok hq s o).congr rfl rfl (handles_setPool pool)
  case openedTx hq o => exact .opening_ok hq s o
  case releasedRx => exact (closeQueue s).congr rfl rfl handles_clearPool
  case releasedTx => exact .closeQueue s
  case statsReset => exact (same (.refl dev)).congr rfl rfl handles_resetStats
  case received q n bs pools c =>
    have t := (traffic_same dev).rx (p := p) (q := q) rest n bs pools (.refl dev)
    exact (same t).congr rfl rfl (handles_counted c)
  case sent q bs pools c =>
    have t := (traffic_same dev).tx (p := p) (q := q) rest bs pools (.refl dev)
    exact (same t).congr rfl rfl (handles_counted c)

theorem step (s : dev.Serves (p.handles ++ rest)) (op : Op) :
    p.Knows dev rest (p.step dev op).port (p.step dev op).dev :=
  course s (p.step_course dev op)

end Knows

theorem Steps.index (t : Steps p dev p' dev') (s : dev.Serves (p.handles ++ rest))
    (h : p.handles ≠ [] → p.ifIndex = UInt32.ofNat dev.index) :
    (p'.handles ≠ [] → p'.ifIndex = UInt32.ofNat dev'.index) ∧
      (rest ≠ [] → dev'.index = dev.index) := by
  induction t
  case refl => exact ⟨h, fun _ => rfl⟩
  case tail p₁ dev₁ op t ih =>
    obtain ⟨ih, ihr⟩ := ih
    cases Knows.step (custody_serves.steps t s) op
    case kept hi _ hn hs =>
      constructor
      case left =>
        intro h'
        rw [hi, ih (hn h'), (hs (List.append_ne_nil_of_left_ne_nil h' rest)).index]
      case right =>
        intro hr
        rw [(hs (List.append_ne_nil_of_right_ne_nil _ hr)).index, ihr hr]
    case identified hi _ _ hs => exact ⟨fun _ => hi, fun hr => (hs hr).trans (ihr hr)⟩

-- That the interface has the address that belongs to the port, which has the other one itself.
def Addressed (p : Port κ) (d : MemoryTap) : Prop :=
  d.address = Address.host p.id p.numaNode ∧ p.mac = Address.app p.id p.numaNode

theorem Addressed.congr (h : p.Addressed dev) (ha : dev'.address = dev.address) :
    p.Addressed dev' := ⟨ha.trans h.1, h.2⟩

theorem Steps.address (t : Steps p dev p' dev') (s : dev.Serves (p.handles ++ rest))
    (h : p.handles ≠ [] → p.Addressed dev) : p'.handles ≠ [] → p'.Addressed dev' := by
  induction t
  case refl => exact h
  case tail p₁ dev₁ op t ih =>
    intro h'
    obtain ⟨hd, hn⟩ := (Steps.single p₁ dev₁ op).frame
    cases Knows.step (custody_serves.steps t s) op
    case kept _ hm hh hs =>
      have ⟨ha, hm'⟩ := ih (hh h')
      rw [Addressed, (hs (List.append_ne_nil_of_left_ne_nil h' rest)).address, hm, hd, hn]
      exact ⟨ha, hm'⟩
    case identified hm ha _ =>
      rw [Addressed, hd, hn]
      exact ⟨ha, hm⟩

section Making

variable {name iface : String} {id : UInt16} {args : PortArgs} {hs : List Nat}

theorem Making.same {e : Error} (m : Making name iface id args dev (.error e, dev'))
    (s : dev.Serves hs) (hr : hs ≠ []) : dev.SameInterface dev' := by
  cases m
  case invalid => exact .refl dev
  case refused ho => exact openQueue_error ho ▸ .refl dev
  case unidentified ho hi =>
    obtain ⟨flags, -, rfl, -, rfl⟩ := openQueue_ok ho
    obtain rfl := identify_error hi
    exact same_undone s hr flags _

theorem Making.identified (m : Making name iface id args dev (.ok p, dev'))
    (s : dev.Serves hs) :
    p.ifIndex = UInt32.ofNat dev'.index ∧ p.Addressed dev' ∧
      (hs ≠ [] → dev'.index = dev.index) := by
  cases m
  case made given _ _ _ _ ho hi =>
    obtain ⟨flags, -, -, -, rfl⟩ := openQueue_ok ho
    obtain ⟨hm, hx, rfl⟩ := identify_ok hi
    exact ⟨hx, ⟨rfl, hm⟩, fun hr => (same_attach (s.rings_ne_nil.2 hr) flags given).index⟩

end Making

-- A port that is closed does not touch an interface that others use.
theorem Steps.same_of_closed (t : Steps p dev p' dev') (s : dev.Serves (p.handles ++ rest))
    (hp : p.Sound) (hc : p.phase = .closed) (hr : rest ≠ []) : dev.SameInterface dev' := by
  induction t
  case refl => exact .refl dev
  case tail p₁ dev₁ op t ih =>
    have hn := ((t.sound hp).step dev₁ op).closed (phase_step_closed (t.phase_closed hc) dev₁ op)
    cases Knows.step (custody_serves.steps t s) op
    case kept hs => exact ih.trans (hs (List.append_ne_nil_of_right_ne_nil _ hr))
    case identified hh _ _ _ _ => exact (hh hn).elim

end Port

end TapPort
