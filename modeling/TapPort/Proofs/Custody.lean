import TapPort.Proofs.Port.Course

namespace TapPort

variable {κ δ : Type} [Device δ κ]

-- What holds of a device, and of descriptors that somebody has, under traffic on these.
structure Traffic (Holds : δ → List κ → Prop) : Prop where
  read {h d hs} (n : Nat) : h ∈ hs → Holds d hs → Holds (Device.read h n d).2 hs
  write {h d hs} (bs : Bytes) : h ∈ hs → Holds d hs → Holds (Device.write h bs d).2 hs
  pollWritable {h d hs} : h ∈ hs → Holds d hs → Holds (Device.pollWritable h d).2 hs

-- The same under whatever is done with descriptors that somebody has, giving them back included.
structure Usage (Holds : δ → List κ → Prop) : Prop extends Traffic Holds where
  perm {d hs hs'} : hs.Perm hs' → Holds d hs → Holds d hs'
  close {h d hs} : Holds d (h :: hs) → Holds (Device.close h d) hs
  address {h d hs} : h ∈ hs → Holds d hs → Holds (Device.address h d).2 hs
  setAddress {h d hs} (mac : Mac) : h ∈ hs → Holds d hs → Holds (Device.setAddress h mac d).2 hs
  index {h d hs} : h ∈ hs → Holds d hs → Holds (Device.index h d).2 hs

-- The same also when queues of one interface are asked for.
structure Tenancy (iface : String) (Holds : δ → List κ → Prop) : Prop extends Usage Holds where
  refused {n d e d' hs} :
    Device.openQueue (some iface) n d = (.error e, d') → Holds d hs → Holds d' hs
  opened {n d h given d' hs} :
    Device.openQueue (some iface) n d = (.ok (h, given), d') → Holds d hs → Holds d' (h :: hs)

-- The same when queues of any interface are asked for.
structure Custody (Holds : δ → List κ → Prop) : Prop extends Usage Holds where
  refused {name n d e d' hs} :
    Device.openQueue name n d = (.error e, d') → Holds d hs → Holds d' hs
  opened {name n d h given d' hs} :
    Device.openQueue name n d = (.ok (h, given), d') → Holds d hs → Holds d' (h :: hs)

theorem Custody.tenancy {Holds : δ → List κ → Prop} (c : Custody Holds) (iface : String) :
    Tenancy iface Holds :=
  ⟨c.toUsage, c.refused, c.opened⟩

namespace Traffic

variable {Holds : δ → List κ → Prop} {dev : δ} {h : κ} {hs rest : List κ}

theorem receive (t : Traffic Holds) (hm : h ∈ hs) (pool : PoolId) (id : UInt16) (n : Nat)
    {r : Burst.Receiving δ} (hd : Holds r.dev hs) :
    Holds (Burst.receive h pool id n r).dev hs := by
  induction n generalizing r
  case zero => exact hd
  case succ n ih =>
    simp only [Burst.receive]
    split
    case h_1 => exact hd
    case h_2 b _ _ =>
      have hr := t.read b.tailroom hm hd
      split
      case h_1 he =>
        rw [he] at hr
        exact ih hr
      case h_2 he =>
        rw [he] at hr
        exact hr

theorem send (t : Traffic Holds) (hm : h ∈ hs) (bs : List Buffer) {s : Burst.Sending δ}
    (hd : Holds s.dev hs) : Holds (Burst.send h bs s).dev hs := by
  induction bs generalizing s
  case nil => exact hd
  case cons b bs ih =>
    have hp := t.pollWritable hm hd
    simp only [Burst.send]
    split
    case h_1 d₁ he =>
      rw [he] at hp
      have hw := t.write b.data hm hp
      split
      case h_1 he =>
        rw [he] at hw
        exact ih hw
      case h_2 he =>
        rw [he] at hw
        exact hw
    case h_2 he =>
      rw [he] at hp
      exact hp

variable {p : Port κ} {q : Nat}

omit [Device δ κ] in
theorem burst {bs : List Buffer} {pools : Pools}
    {run : QueuePair κ → List Buffer → δ → Pools → Burst.Outcome κ δ}
    (hr : ∀ pair hs, (∀ h, pair.slot.get? = some h → h ∈ hs) → Holds dev hs →
      Holds (run pair bs dev pools).dev hs)
    (hd : Holds dev (p.handles ++ rest)) :
    Holds (p.burst q bs dev pools run).dev (p.handles ++ rest) := by
  unfold Port.burst
  split
  case h_1 => exact hd
  case h_2 pair hq =>
    refine hr pair _ ?_ hd
    intro h hs
    exact List.mem_append_left rest (Port.mem_handles.2 ⟨q, by simp [Port.handle?, hq, hs]⟩)

theorem rx (t : Traffic Holds) (rest : List κ) (n : Nat) (bs : List Buffer) (pools : Pools)
    (hd : Holds dev (p.handles ++ rest)) :
    Holds (p.rx q bs n dev pools).dev (p.handles ++ rest) := by
  refine burst ?_ hd
  intro pair hs hm hd
  unfold Burst.rx
  split
  case h_1 h _ he => exact t.receive (hm h he) _ _ n hd
  case h_2 => exact hd

theorem tx (t : Traffic Holds) (rest : List κ) (bs : List Buffer) (pools : Pools)
    (hd : Holds dev (p.handles ++ rest)) :
    Holds (p.tx q bs dev pools).dev (p.handles ++ rest) := by
  refine burst ?_ hd
  intro pair hs hm hd
  unfold Burst.tx
  split
  case h_1 => exact hd
  case h_2 =>
    cases he : pair.slot.get?
    case none => exact hd
    case some h => exact t.send (hm h he) _ hd

end Traffic

section Port

variable {Holds : δ → List κ → Prop} {dev : δ} {h : κ} {hs rest : List κ} {p p' : Port κ} {q : Nat}

namespace Usage

theorem identify (u : Usage Holds) (name : String) (id : UInt16) (node : UInt8) (hm : h ∈ hs)
    (hd : Holds dev hs) : Holds (Address.identify h name id node dev).2 hs := by
  unfold Address.identify Address.assign
  replace hd := u.address hm hd
  generalize Device.address h dev = r at hd
  rcases r with ⟨_ | _, d⟩
  case error => exact hd
  case ok =>
    replace hd := u.setAddress (Address.host id node) hm hd
    dsimp only at hd ⊢
    generalize Device.setAddress h (Address.host id node) d = r at hd
    rcases r with ⟨_ | _, d⟩
    case error => exact hd
    case ok =>
      replace hd := u.index hm hd
      dsimp only at hd ⊢
      generalize Device.index h d = r at hd
      rcases r with ⟨_ | _, d⟩ <;> exact hd

theorem closeAll (u : Usage Holds) (hd : Holds dev (hs ++ rest)) :
    Holds (Device.closeAll hs dev) rest := by
  induction hs generalizing dev
  case nil => exact hd
  case cons h hs ih => exact ih (u.close hd)

theorem closeQueue (u : Usage Holds) (hd : Holds dev (p.handles ++ rest)) :
    Holds (Device.closeAll (p.handle? q).toList dev)
      ((p.modifyQueue q .unset).handles ++ rest) := by
  have hp := (p.handles_unset_perm q).append_right rest
  rw [List.append_assoc] at hp
  exact u.closeAll (u.perm hp hd)

theorem halt (u : Usage Holds) (phase : Phase) (hd : Holds dev (p.handles ++ rest)) :
    Holds (p.halt phase dev).2 ((p.halt phase dev).1.handles ++ rest) := by
  rw [Port.handles_halt, Port.halt_eq]
  exact u.closeAll hd

end Usage

namespace Tenancy

theorem opening_ok {dev' : δ} (t : Tenancy p.iface Holds) (hq : q < p.queueCount)
    (o : Port.Opening p q dev (.ok p', dev')) (hd : Holds dev (p.handles ++ rest)) :
    Holds dev' (p'.handles ++ rest) := by
  cases o
  case already => exact hd
  case joined h _ hc _ ho =>
    have hp := Port.handles_opened_perm (h := h) hq (Port.queueIsOpen_eq_false.1 hc)
    exact t.perm (hp.symm.append_right rest) (t.opened ho hd)
  case identified h name _ mac ifIndex hc ho _ hi =>
    have hp := Port.handles_opened_perm (p := { p with mac, ifIndex }) (h := h) hq
      (Port.queueIsOpen_eq_false.1 hc)
    replace hd := t.identify name p.id p.numaNode List.mem_cons_self (t.opened ho hd)
    rw [hi] at hd
    exact t.perm (hp.symm.append_right rest) hd

theorem opening_error {e : Error} {dev' : δ} (t : Tenancy p.iface Holds)
    (o : Port.Opening p q dev (.error e, dev')) (hd : Holds dev hs) : Holds dev' hs := by
  cases o
  case refused ho => exact t.refused ho hd
  case unidentified h name _ _ _ ho _ hi =>
    replace hd := t.identify name p.id p.numaNode List.mem_cons_self (t.opened ho hd)
    rw [hi] at hd
    exact t.close hd

theorem course {op : Port.Op} {e : Port.Effect κ δ} (t : Tenancy p.iface Holds)
    (k : Port.Course p dev op e) (hd : Holds dev (p.handles ++ rest)) :
    Holds e.dev (e.port.handles ++ rest) := by
  cases k
  case refused | idle | configured | started => exact hd
  case halted phase _ => exact t.halt phase hd
  case notOpened o _ => exact t.opening_error o hd
  case openedRx pool _ _ hq o =>
    rw [Port.handles_setPool]
    exact t.opening_ok hq o hd
  case openedTx hq o => exact t.opening_ok hq o hd
  case releasedRx =>
    rw [Port.handles_clearPool]
    exact t.closeQueue hd
  case releasedTx => exact t.closeQueue hd
  case statsReset => rwa [Port.handles_resetStats]
  case received n bs pools _ =>
    rw [Port.handles_counted]
    exact t.toTraffic.rx rest n bs pools hd
  case sent bs pools _ =>
    rw [Port.handles_counted]
    exact t.toTraffic.tx rest bs pools hd

-- What a port holds is its own, whatever the others hold.
theorem step (t : Tenancy p.iface Holds) (op : Port.Op) (hd : Holds dev (p.handles ++ rest)) :
    Holds (p.step dev op).dev ((p.step dev op).port.handles ++ rest) :=
  t.course (p.step_course dev op) hd

theorem step_alone (t : Tenancy p.iface Holds) (op : Port.Op) (hd : Holds dev p.handles) :
    Holds (p.step dev op).dev (p.step dev op).port.handles := by
  have hd : Holds dev (p.handles ++ []) := by rwa [List.append_nil]
  have hs := t.step op hd
  rwa [List.append_nil] at hs

end Tenancy

namespace Custody

theorem step (c : Custody Holds) (op : Port.Op) (hd : Holds dev (p.handles ++ rest)) :
    Holds (p.step dev op).dev ((p.step dev op).port.handles ++ rest) :=
  (c.tenancy p.iface).step op hd

theorem steps (c : Custody Holds) {dev' : δ} (s : Port.Steps p dev p' dev')
    (hd : Holds dev (p.handles ++ rest)) : Holds dev' (p'.handles ++ rest) := by
  induction s
  case refl => exact hd
  case tail op _ ih => exact c.step op ih

theorem making_ok {name iface : String} {id : UInt16} {args : PortArgs} {dev' : δ}
    (c : Custody Holds) (m : Port.Making name iface id args dev (.ok p, dev'))
    (hd : Holds dev rest) : Holds dev' (p.handles ++ rest) := by
  cases m
  case made h given _ mac ifIndex hv ho hi =>
    replace hd := c.identify given id args.numaNode List.mem_cons_self (c.opened ho hd)
    rw [hi] at hd
    rw [Port.handles_initial _ _ _ _ _ _ (Port.queues_pos_of_validate hv)]
    exact hd

theorem making_error {name iface : String} {id : UInt16} {args : PortArgs} {e : Error} {dev' : δ}
    (c : Custody Holds) (m : Port.Making name iface id args dev (.error e, dev'))
    (hd : Holds dev rest) : Holds dev' rest := by
  cases m
  case invalid => exact hd
  case refused ho => exact c.refused ho hd
  case unidentified h given _ _ _ ho hi =>
    replace hd := c.identify given id args.numaNode List.mem_cons_self (c.opened ho hd)
    rw [hi] at hd
    exact c.close hd

end Custody

end Port

end TapPort
