import TapPort.Proofs.Device.Chronicled
import TapPort.Proofs.Port.Site
import TapPort.Proofs.Port.Sound

namespace TapPort

open Chronicled (Latest)

-- A port knows its interface, and holds the queues of its device.
structure Site.Knows (iface : String) (s : Site Chronicled Nat) : Prop where
  serves : s.dev.dev.Serves s.port.handles
  latest : Latest iface s.dev
  iface : s.port.iface = iface

theorem Port.iface_step {κ δ : Type} [Device δ κ] (p : Port κ) (dev : δ) (op : Op) :
    (p.step dev op).port.iface = p.iface := by
  have ⟨_, _, _, _, _, _, hp⟩ := p.step_frame dev op
  rw [hp]

theorem MemoryTap.serves_nil {d : MemoryTap} (h : d.rings = []) : d.Serves [] where
  attached := by simp [attached, h]
  nodup := .nil
  bounded := nofun

namespace Site

variable {s : Site Chronicled Nat} {d : MemoryTap} {name iface : String} {id : UInt16}
  {args : PortArgs} {p : Port Nat} {d' : Chronicled}

theorem serves_step {s : Site MemoryTap Nat} (h : s.dev.Serves s.port.handles)
    (e : Event MemoryTap.Control) : (s.step e).dev.Serves (s.step e).port.handles := by
  cases e
  case op op => exact (MemoryTap.custody_serves.tenancy _).step_alone op h
  case control c => exact h.control c

namespace Knows

theorem step (k : s.Knows iface) (e : Event MemoryTap.Control) : (s.step e).Knows iface := by
  constructor
  case serves =>
    have hs := serves_step (s := s.map Chronicled.dev) k.serves e
    rwa [step_map Chronicled.hom_dev fun _ _ => rfl] at hs
  case latest =>
    cases e
    case op op =>
      have t := Chronicled.tenancy_latest s.port.iface
      exact k.iface ▸ t.step_alone op (k.iface ▸ k.latest)
    case control c => exact k.latest.control c
  case iface =>
    cases e
    case op op => exact (s.port.iface_step s.dev op).trans k.iface
    case control => exact k.iface

theorem run (k : s.Knows iface) (events : List (Event MemoryTap.Control)) :
    (s.run events).Knows iface := by
  induction events generalizing s
  case nil => exact k
  case cons e events ih => exact ih (k.step e)

end Knows

theorem create_dev (hc : Port.create name iface id args (Chronicled.ofDevice d) = (.ok p, d')) :
    Port.create name iface id args d = (.ok p, d'.dev) := by
  have hm := Chronicled.hom_dev.create (Chronicled.ofDevice d) name iface id args
  rw [hc] at hm
  exact hm

theorem knows_of_create (hr : d.rings = [])
    (hc : Port.create name iface id args (Chronicled.ofDevice d) = (.ok p, d')) :
    Knows p.iface ⟨p, d'⟩ where
  iface := rfl
  serves := by
    have m := Port.create_making name iface id args d
    rw [create_dev hc] at m
    simpa using MemoryTap.custody_serves.making_ok m (MemoryTap.serves_nil hr)
  latest := by
    have m := Port.create_making name iface id args (Chronicled.ofDevice d)
    rw [hc] at m
    cases m
    case made h given d₁ _ _ _ ho hi =>
      have ⟨_, he⟩ := Chronicled.openQueue_eq ho
      rw [Chronicled.enter_ok hr] at he
      have l : Latest given d₁ := ⟨_, [], he, fun _ => rfl, nofun, fun _ => rfl, nofun⟩
      replace l := (Chronicled.usage_latest given).identify given id args.numaNode
        (List.mem_singleton_self h) l
      rw [hi] at l
      exact l

-- A port keeps the name that its interface got at first, and asks for that name alone. The
-- interface that is there has it exactly where it is the first one, or got the name that was asked
-- for.
theorem iface_eq_given_iff (hr : d.rings = [])
    (hc : Port.create name iface id args (Chronicled.ofDevice d) = (.ok p, d'))
    (events : List (Event MemoryTap.Control)) :
    let s : Site Chronicled Nat := run ⟨p, d'⟩ events
    s.map Chronicled.dev = run ⟨p, d'.dev⟩ events ∧
      (0 < s.port.openCount → ∃ i earlier, s.dev.interfaces = i :: earlier ∧
        i.index = s.dev.dev.index ∧ s.port.info.iface = s.port.iface ∧
        (∀ asked ∈ i.later, asked = some s.port.iface) ∧
        ((s.port.iface = i.given ∧ ∀ asked ∈ i.later, asked = some i.given) ↔
          earlier = [] ∨ i.requested = some i.given)) := by
  dsimp only
  refine ⟨(run_map Chronicled.hom_dev (fun _ _ => rfl) ⟨p, d'⟩ events).symm, ?_⟩
  intro ho
  have k := (knows_of_create hr hc).run events
  have hn := k.serves.rings_ne_nil.2 (Port.openCount_pos.1 ho)
  have ⟨i, earlier, hi, t⟩ := k.latest
  have hl : ∀ asked ∈ i.later, asked = some (run ⟨p, d'⟩ events).port.iface := k.iface ▸ t.later
  refine ⟨i, earlier, hi, t.current hn, rfl, hl, ?_⟩
  rw [k.iface]
  constructor
  case mp =>
    intro h
    by_cases he : earlier = []
    case pos => exact .inl he
    case neg => exact .inr (h.1 ▸ t.anew he)
  case mpr =>
    intro h
    have hg : p.iface = i.given := by
      by_cases he : earlier = []
      case pos => exact (t.first he).symm
      case neg => exact Option.some.inj ((t.anew he).symm.trans (h.resolve_left he))
    exact ⟨hg, hg ▸ t.later⟩

-- The first port on a device, with two queues.
def twinArgs : PortArgs := ⟨none, Link.defaultSpeed, 2, 0⟩

def twin : Port Nat := .initial "a" "dtap0" 0 twinArgs (Address.app 0 0) 7 1

def twinDevice : Chronicled :=
  (Port.create "a" "dtap0" 0 twinArgs (Chronicled.ofDevice .default)).2

-- Its interface goes with its queues, and comes back under another name.
def renewal : List (Event MemoryTap.Control) :=
  [.op (.releaseTx 0), .control (.rename "tapx"), .op (.setUpTx 0), .op (.setUpTx 1)]

theorem iface_eq_given_iff_twin :
    MemoryTap.default.rings = [] ∧
      Port.create "a" "dtap0" 0 twinArgs (Chronicled.ofDevice .default) = (.ok twin, twinDevice) ∧
      0 < (run ⟨twin, twinDevice⟩ renewal).port.openCount ∧
      ∃ i earlier, (run ⟨twin, twinDevice⟩ renewal).dev.interfaces = i :: earlier ∧
        i.later = [some "dtap0"] ∧ i.index = 8 ∧
        ¬(twin.iface = i.given ∧ ∀ asked ∈ i.later, asked = some i.given) := by
  have hr : MemoryTap.default.rings = [] := rfl
  have hc : Port.create "a" "dtap0" 0 twinArgs (Chronicled.ofDevice .default) =
      (.ok twin, twinDevice) := rfl
  have ho : 0 < (run ⟨twin, twinDevice⟩ renewal).port.openCount := by decide +kernel
  have hi : (run ⟨twin, twinDevice⟩ renewal).dev.interfaces =
      [⟨some "dtap0", "tapx", 8, [some "dtap0"]⟩, ⟨some "dtap0", "dtap0", 7, []⟩] := by
    decide +kernel
  have hp : (run ⟨twin, twinDevice⟩ renewal).port.iface = twin.iface := by decide +kernel
  have ⟨i, earlier, he, _, _, _, h⟩ := (iface_eq_given_iff hr hc renewal).2 ho
  refine ⟨hr, hc, ho, i, earlier, he, ?_⟩
  rw [hi] at he
  cases he
  refine ⟨rfl, rfl, ?_⟩
  rw [← hp, h]
  simp

-- A device that is told to give another name does so when the interface is made again, and the port
-- has a queue of an interface whose name it does not know.
theorem iface_not_given :
    ∃ d', Port.create "a" "dtap0" 0 ⟨none, Link.defaultSpeed, 1, 0⟩ (Chronicled.ofDevice .default) =
        (.ok Port.sole, d') ∧
      let s : Site Chronicled Nat :=
        run ⟨Port.sole, d'⟩ [.op (.releaseTx 0), .control (.rename "tapx"), .op (.setUpTx 0)]
      s.port.openCount = 1 ∧ s.dev.dev.iface = some "tapx" ∧
        s.dev.interfaces.head? = some ⟨some "dtap0", "tapx", 8, []⟩ ∧
        s.port.iface = "dtap0" ∧ s.port.info.iface = "dtap0" := by
  refine ⟨_, rfl, ?_⟩
  decide +kernel

end Site

end TapPort
