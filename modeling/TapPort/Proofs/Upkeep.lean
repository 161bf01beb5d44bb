import TapPort.Proofs.Port.Bursts
import TapPort.Proofs.Port.Course

namespace TapPort

variable {κ δ : Type} [Device δ κ]

-- What holds of a device under all calls but reads, with any descriptors.
structure Upkeep (Holds : δ → Prop) : Prop where
  openQueue {d} (name : Option String) (n : UInt16) :
    Holds d → Holds (Device.openQueue name n d).2
  write {d} (h : κ) (bs : Bytes) : Holds d → Holds (Device.write h bs d).2
  pollWritable {d} (h : κ) : Holds d → Holds (Device.pollWritable h d).2
  address {d} (h : κ) : Holds d → Holds (Device.address h d).2
  setAddress {d} (h : κ) (mac : Mac) : Holds d → Holds (Device.setAddress h mac d).2
  index {d} (h : κ) : Holds d → Holds (Device.index h d).2
  close {d} (h : κ) : Holds d → Holds (Device.close h d)

namespace Upkeep

variable {Holds : δ → Prop} {dev dev' : δ} {p : Port κ} {q : Nat}

theorem opened (u : Upkeep Holds) {name : Option String} {n : UInt16}
    {r : Except Error (κ × String)} (ho : Device.openQueue name n dev = (r, dev'))
    (hd : Holds dev) : Holds dev' := by
  have hd := u.openQueue name n hd
  rwa [ho] at hd

theorem assign (u : Upkeep Holds) (h : κ) (id : UInt16) (node : UInt8) (hd : Holds dev) :
    Holds (Address.assign h id node dev).2 := by
  replace hd := u.address h hd
  simp only [Address.assign]
  split
  case h_1 he =>
    rw [he] at hd
    exact hd
  case h_2 he =>
    rw [he] at hd
    replace hd := u.setAddress h (Address.host id node) hd
    split
    case h_1 he | h_2 he =>
      rw [he] at hd
      exact hd

theorem identified (u : Upkeep Holds) {h : κ} {name : String} {id : UInt16} {node : UInt8}
    {r : Except Error (Mac × UInt32)} (hi : Address.identify h name id node dev = (r, dev'))
    (hd : Holds dev) : Holds dev' := by
  suffices hs : Holds (Address.identify h name id node dev).2 by rwa [hi] at hs
  replace hd := u.assign h id node hd
  simp only [Address.identify]
  split
  case h_1 he =>
    rw [he] at hd
    exact hd
  case h_2 he =>
    rw [he] at hd
    replace hd := u.index h hd
    split
    case h_1 he | h_2 he =>
      rw [he] at hd
      exact hd

theorem closeAll (u : Upkeep Holds) (hs : List κ) (hd : Holds dev) :
    Holds (Device.closeAll hs dev) := by
  induction hs generalizing dev
  case nil => exact hd
  case cons h hs ih => exact ih (u.close h hd)

theorem send (u : Upkeep Holds) (h : κ) (bs : List Buffer) {s : Burst.Sending δ}
    (hd : Holds s.dev) : Holds (Burst.send h bs s).dev := by
  induction bs generalizing s
  case nil => exact hd
  case cons b bs ih =>
    have hp := u.pollWritable h hd
    simp only [Burst.send]
    split
    case h_1 he =>
      rw [he] at hp
      have hw := u.write h b.data hp
      split
      case h_1 he =>
        rw [he] at hw
        exact ih hw
      case h_2 he =>
        rw [he] at hw
        exact hw
    case h_2 he =>
      rw [he] at hp
      exact hp

theorem tx (u : Upkeep Holds) (p : Port κ) (q : Nat) (bs : List Buffer) (pools : Pools)
    (hd : Holds dev) : Holds (p.tx q bs dev pools).dev := by
  have k := p.tx_course q bs dev pools
  generalize p.tx q bs dev pools = o at k
  cases k
  case idle | unopened => exact hd
  case sent h s _ _ hs => exact hs ▸ u.send h _ hd

theorem opening (u : Upkeep Holds) {r : Except Error (Port κ) × δ} (o : Port.Opening p q dev r)
    (hd : Holds dev) : Holds r.2 := by
  cases o
  case already => exact hd
  case refused ho => exact u.opened ho hd
  case joined ho _ => exact u.opened ho hd
  case unidentified h _ _ _ _ _ ho _ hi => exact u.close h (u.identified hi (u.opened ho hd))
  case identified ho _ hi => exact u.identified hi (u.opened ho hd)

theorem course (u : Upkeep Holds) {op : Port.Op} {e : Port.Effect κ δ}
    (k : Port.Course p dev op e) (hr : ∀ q n bs pools, op ≠ .rx q n bs pools) (hd : Holds dev) :
    Holds e.dev := by
  cases k
  case refused | idle | configured | started | statsReset => exact hd
  case halted phase _ =>
    rw [Port.halt_eq]
    exact u.closeAll p.handles hd
  case notOpened o _ => exact u.opening o hd
  case openedRx o => exact u.opening o hd
  case openedTx o => exact u.opening o hd
  case releasedRx | releasedTx => exact u.closeAll _ hd
  case received q n bs pools _ => exact (hr q n bs pools rfl).elim
  case sent q bs pools _ => exact u.tx p q bs pools hd

theorem step (u : Upkeep Holds) {op : Port.Op} (hr : ∀ q n bs pools, op ≠ .rx q n bs pools)
    (hd : Holds dev) : Holds (p.step dev op).dev :=
  u.course (p.step_course dev op) hr hd

theorem making (u : Upkeep Holds) {name iface : String} {id : UInt16} {args : PortArgs}
    {r : Except Error (Port κ) × δ} (m : Port.Making name iface id args dev r) (hd : Holds dev) :
    Holds r.2 := by
  cases m
  case invalid => exact hd
  case refused ho => exact u.opened ho hd
  case unidentified h _ _ _ _ _ ho hi => exact u.close h (u.identified hi (u.opened ho hd))
  case made ho hi => exact u.identified hi (u.opened ho hd)

end Upkeep

end TapPort
