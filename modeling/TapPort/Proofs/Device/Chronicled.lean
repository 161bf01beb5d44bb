import TapPort.Proofs.Device.Hom
import TapPort.Proofs.Device.Interface

namespace TapPort

namespace MemoryTap

-- That the interface, if there is one, was there before.
def Remains (d d' : MemoryTap) : Prop := d'.rings ≠ [] → d.rings ≠ [] ∧ d'.index = d.index

variable {d d' : MemoryTap}

theorem Remains.refl (d : MemoryTap) : d.Remains d := fun hr => ⟨hr, rfl⟩

theorem remains_of_same (s : d.SameInterface d') (ha : d'.attached = d.attached) : d.Remains d' :=
  fun hr => ⟨rings_of_attached ha hr, s.index⟩

theorem remains_detach {id : Nat} : d.Remains (d.detach id) := by
  intro hr
  refine ⟨?_, (same_detach hr).index⟩
  intro hz
  have hn : (d.detach id).rings = [] := by simp [detach, hz]
  exact hr hn

end MemoryTap

-- An interface, from when its first queue was opened.
structure Chronicled.Interface where
  -- The name that was asked for then, and the name that the interface got.
  requested : Option String
  given : String
  index : Nat
  -- The names that were asked for while the interface was there, the latest first.
  later : List (Option String)
deriving DecidableEq, Repr

structure Chronicled where
  dev : MemoryTap
  -- All interfaces that there were, the latest first.
  interfaces : List Chronicled.Interface

namespace Chronicled

def ofDevice (dev : MemoryTap) : Chronicled := ⟨dev, []⟩

-- A call that opens no queue.
def called {α : Type} (d : Chronicled) (r : α × MemoryTap) : α × Chronicled :=
  (r.1, { d with dev := r.2 })

-- The chronicle after a queue was asked for, with what came of it. Where there was no interface, a
-- queue that is opened makes one.
def enter (d : Chronicled) (name : Option String) (r : Except Error (Nat × String) × MemoryTap) :
    List Interface :=
  if d.dev.rings.isEmpty then
    match r.1 with
    | .ok (_, given) => ⟨name, given, r.2.index, []⟩ :: d.interfaces
    | .error _ => d.interfaces
  else d.interfaces.modifyHead fun i => { i with later := name :: i.later }

instance : Device Chronicled Nat where
  features d := d.called (Device.features d.dev)
  openQueue name n d :=
    let r := Device.openQueue name n d.dev
    (r.1, ⟨r.2, d.enter name r⟩)
  read h n d := d.called (Device.read h n d.dev)
  write h bs d := d.called (Device.write h bs d.dev)
  pollWritable h d := d.called (Device.pollWritable h d.dev)
  address h d := d.called (Device.address h d.dev)
  setAddress h mac d := d.called (Device.setAddress h mac d.dev)
  index h d := d.called (Device.index h d.dev)
  close h d := { d with dev := Device.close h d.dev }
  halted d := Device.halted d.dev

instance : Controlled Chronicled MemoryTap.Control MemoryTap.Answer where
  control c d := d.called (Controlled.control c d.dev)

theorem hom_dev : Hom (κ := Nat) Chronicled.dev where
  openQueue _ _ _ := rfl
  read _ _ _ := rfl
  write _ _ _ := rfl
  pollWritable _ _ := rfl
  address _ _ := rfl
  setAddress _ _ _ := rfl
  index _ _ := rfl
  close _ _ := rfl
  halted _ := rfl

theorem openQueue_eq {name : Option String} {n : UInt16} {d d' : Chronicled}
    {r : Except Error (Nat × String)} (h : Device.openQueue name n d = (r, d')) :
    MemoryTap.openQueue name n d.dev = (r, d'.dev) ∧ d'.interfaces = d.enter name (r, d'.dev) := by
  cases h
  exact ⟨rfl, rfl⟩

theorem enter_ok {d : Chronicled} (h : d.dev.rings = []) (name : Option String) (id : Nat)
    (given : String) (dev : MemoryTap) :
    d.enter name (.ok (id, given), dev) = ⟨name, given, dev.index, []⟩ :: d.interfaces := by
  simp [enter, h]

theorem enter_error {d : Chronicled} (h : d.dev.rings = []) (name : Option String) (e : Error)
    (dev : MemoryTap) : d.enter name (.error e, dev) = d.interfaces := by
  simp [enter, h]

theorem enter_later {d : Chronicled} {i : Interface} {earlier : List Interface}
    (h : d.dev.rings ≠ []) (hi : d.interfaces = i :: earlier) (name : Option String)
    (r : Except Error (Nat × String) × MemoryTap) :
    d.enter name r = { i with later := name :: i.later } :: earlier := by
  simp [enter, h, hi]

-- What holds of the latest interface where all names that were asked for, but the first one of
-- all, are `iface`, and the first interface got that name.
structure Told (iface : String) (d : MemoryTap) (i : Interface) (earlier : List Interface) :
    Prop where
  -- While there is an interface, it is the latest.
  current : d.rings ≠ [] → i.index = d.index
  later : ∀ name ∈ i.later, name = some iface
  first : earlier = [] → i.given = iface
  anew : earlier ≠ [] → i.requested = some iface

def Latest (iface : String) (d : Chronicled) : Prop :=
  ∃ i earlier, d.interfaces = i :: earlier ∧ Told iface d.dev i earlier

variable {iface : String} {d d' : Chronicled} {i : Interface} {earlier : List Interface}

namespace Told

variable {dev dev' : MemoryTap}

theorem congr (t : Told iface dev i earlier) (h : dev.Remains dev') :
    Told iface dev' i earlier where
  current hr := (t.current (h hr).1).trans (h hr).2.symm
  later := t.later
  first := t.first
  anew := t.anew

theorem asked (t : Told iface dev i earlier) :
    Told iface dev { i with later := some iface :: i.later } earlier where
  current := t.current
  later name hm := by
    cases List.mem_cons.1 hm
    case inl he => exact he
    case inr hm => exact t.later name hm
  first := t.first
  anew := t.anew

end Told

theorem Latest.congr (l : Latest iface d) (hi : d'.interfaces = d.interfaces)
    (h : d.dev.Remains d'.dev) : Latest iface d' := by
  have ⟨i, earlier, he, t⟩ := l
  exact ⟨i, earlier, hi.trans he, t.congr h⟩

open MemoryTap in
theorem usage_latest (iface : String) : Usage fun d (_ : List Nat) => Latest iface d where
  perm _ l := l
  read n _ l := l.congr rfl (remains_of_same (same_read n) (attached_read n))
  write bs _ l := l.congr rfl (remains_of_same (same_write bs) (attached_write bs))
  pollWritable _ l := l
  close l := l.congr rfl remains_detach
  address _ l := l.congr rfl (guardAddress_cases (P := Remains _) (.refl _) (.refl _))
  setAddress _ _ l :=
    l.congr rfl (guardAddress_cases (P := Remains _) (.refl _) fun hr => ⟨hr, rfl⟩)
  index _ l := l

theorem Latest.control (l : Latest iface d) (c : MemoryTap.Control) :
    Latest iface (Controlled.control c d).2 :=
  l.congr rfl (MemoryTap.remains_of_same (MemoryTap.same_control c) (MemoryTap.attached_control c))

section Opening

variable {n : UInt16} {r : Except Error (Nat × String)}

-- A queue is asked for while there is an interface.
theorem Latest.asked (l : Latest iface d) (hr : d.dev.rings ≠ [])
    (h : Device.openQueue (some iface) n d = (r, d')) (hd : d.dev.Remains d'.dev) :
    Latest iface d' := by
  have ⟨i, earlier, he, t⟩ := l
  have ⟨_, hi⟩ := openQueue_eq h
  rw [enter_later hr he] at hi
  exact ⟨_, earlier, hi, t.asked.congr hd⟩

-- The first queue of a new interface is opened.
theorem Latest.renewed {id : Nat} {given : String} (l : Latest iface d) (hr : d.dev.rings = [])
    (h : Device.openQueue (some iface) n d = (.ok (id, given), d')) : Latest iface d' := by
  have ⟨i, earlier, he, t⟩ := l
  have ⟨_, hi⟩ := openQueue_eq h
  rw [enter_ok hr, he] at hi
  refine ⟨_, i :: earlier, hi, ?_⟩
  exact ⟨fun _ => rfl, nofun, nofun, fun _ => rfl⟩

theorem tenancy_latest (iface : String) :
    Tenancy iface fun d (_ : List Nat) => Latest iface d where
  toUsage := usage_latest iface
  refused {n d e d' _} h l := by
    have ⟨ho, hi⟩ := openQueue_eq h
    have hd := MemoryTap.openQueue_error ho
    by_cases hr : d.dev.rings = []
    case pos =>
      rw [enter_error hr] at hi
      exact l.congr hi (hd ▸ .refl d.dev)
    case neg => exact l.asked hr h (hd ▸ .refl d.dev)
  opened {n d id given d' _} h l := by
    by_cases hr : d.dev.rings = []
    case pos => exact l.renewed hr h
    case neg =>
      have ⟨flags, _, _, _, hd⟩ := MemoryTap.openQueue_ok (openQueue_eq h).1
      refine l.asked hr h fun _ => ⟨hr, ?_⟩
      rw [hd]
      exact (MemoryTap.same_attach hr flags given).index

end Opening

end Chronicled

end TapPort
