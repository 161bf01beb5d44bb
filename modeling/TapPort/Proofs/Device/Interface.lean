import TapPort.Proofs.Device.Memory

namespace TapPort

namespace MemoryTap

-- That the interface is what it was, and that no other one was made.
structure SameInterface (d d' : MemoryTap) : Prop where
  index : d'.index = d.index
  address : d'.address = d.address
  next : d'.nextIndex = d.nextIndex

namespace SameInterface

theorem refl (d : MemoryTap) : d.SameInterface d := ⟨rfl, rfl, rfl⟩

theorem trans {d₁ d₂ d₃ : MemoryTap} (s : d₁.SameInterface d₂) (s' : d₂.SameInterface d₃) :
    d₁.SameInterface d₃ :=
  ⟨s'.index.trans s.index, s'.address.trans s.address, s'.next.trans s.next⟩

end SameInterface

variable {d d' : MemoryTap} {id : Nat} {hs rest : List Nat}

theorem same_attach (hr : d.rings ≠ []) (flags : TunFlags) (name : String) :
    d.SameInterface (d.attach flags name) := by
  have he : d.createInterface = d := by
    rw [createInterface, if_neg]
    simpa using hr
  simp only [attach, he]
  exact ⟨rfl, rfl, rfl⟩

theorem same_detach (hr : (d.detach id).rings ≠ []) : d.SameInterface (d.detach id) := by
  unfold detach at hr ⊢
  split at hr
  case h_1 => exact .refl d
  case h_2 =>
    dsimp only at hr ⊢
    split at hr
    case isTrue he => exact (hr (by simpa using he)).elim
    case isFalse he =>
      rw [if_neg he]
      exact ⟨rfl, rfl, rfl⟩

theorem Serves.rings_ne_nil (s : d.Serves hs) : d.rings ≠ [] ↔ hs ≠ [] := by
  have hl := s.attached.length_eq
  rw [MemoryTap.attached, List.length_map] at hl
  rw [← List.length_pos_iff, hl, List.length_pos_iff]

-- Opening a queue beside others and giving it back leaves no trace on the interface.
theorem same_undone (s : d.Serves hs) (hr : hs ≠ []) (flags : TunFlags) (name : String) :
    d.SameInterface ((d.attach flags name).detach (d.opens + 1)) := by
  have ha := same_attach (s.rings_ne_nil.2 hr) flags name
  have hc := (s.opened flags name).closed
  exact ha.trans (same_detach (hc.rings_ne_nil.2 hr))

theorem same_closeAll (s : d.Serves (hs ++ rest)) (hr : rest ≠ []) :
    d.SameInterface (Device.closeAll hs d) := by
  induction hs generalizing d
  case nil => exact .refl d
  case cons h hs ih =>
    have s' : (d.detach h).Serves (hs ++ rest) := s.closed
    have hn := s'.rings_ne_nil.2 (by simp [hr])
    exact (same_detach hn).trans (ih s')

theorem same_read (n : Nat) : d.SameInterface (d.read id n).2 := by
  unfold read
  split
  case h_1 => exact .refl d
  case h_2 =>
    split
    case h_1 => exact .refl d
    case h_2 => exact ⟨rfl, rfl, rfl⟩

theorem same_write (bs : Bytes) : d.SameInterface (write bs d).2 := by
  unfold write
  split
  case isTrue => exact .refl d
  case isFalse => split <;> exact ⟨rfl, rfl, rfl⟩

theorem same_control (c : Control) : d.SameInterface (control c d).2 := by
  cases c
  case push | pushTo =>
    simp only [control, push, pushTo]
    split <;> exact ⟨rfl, rfl, rfl⟩
  all_goals exact ⟨rfl, rfl, rfl⟩

theorem traffic_same (d : MemoryTap) : Traffic fun d' (_ : List Nat) => d.SameInterface d' where
  read n _ s := s.trans (same_read n)
  write bs _ s := s.trans (same_write bs)
  pollWritable _ s := s

section Identify

variable {name : String} {pid : UInt16} {node : UInt8}

-- Where addresses can be used at all, the interface gets the address that belongs to the port.
theorem identify_eq :
    Address.identify id name pid node d =
      if d.failAddress then
        (.error (.deviceUnavailable (.readAddress (.kind .permissionDenied))), d)
      else (.ok (Address.app pid node, UInt32.ofNat d.index),
        { d with address := Address.host pid node }) := by
  have ha : Device.address id d = d.guardAddress (d.address, d) := rfl
  have hs (mac : Mac) :
      Device.setAddress id mac d = d.guardAddress ((), { d with address := mac }) := rfl
  simp only [Address.identify, Address.assign, ha, guardAddress]
  cases hf : d.failAddress
  case true => simp
  case false =>
    simp [hs, guardAddress, hf]
    rfl

theorem identify_error {e : Error} (h : Address.identify id name pid node d = (.error e, d')) :
    d' = d := by
  rw [identify_eq] at h
  split at h
  case isTrue => exact (congrArg Prod.snd h).symm
  case isFalse => cases h

theorem identify_ok {mac : Mac} {ifIndex : UInt32}
    (h : Address.identify id name pid node d = (.ok (mac, ifIndex), d')) :
    mac = Address.app pid node ∧ ifIndex = UInt32.ofNat d.index ∧
      d' = { d with address := Address.host pid node } := by
  rw [identify_eq] at h
  split at h
  case isTrue => cases h
  case isFalse =>
    simp only [Prod.mk.injEq, Except.ok.injEq] at h
    exact ⟨h.1.1.symm, h.1.2.symm, h.2.symm⟩

end Identify

theorem rings_of_attached (ha : d'.attached = d.attached) (hr : d'.rings ≠ []) : d.rings ≠ [] := by
  intro h
  have hz : d'.rings.map (·.queue) = [] := ha.trans (by simp [attached, h])
  exact hr (List.map_eq_nil_iff.1 hz)

-- That an interface has an index, and that the next one will have a greater one.
structure Indexed (d : MemoryTap) : Prop where
  next : 0 < d.nextIndex
  current : d.rings ≠ [] → 0 < d.index ∧ d.index < d.nextIndex

theorem indexed_ofFeatures (features : TunFlags) : (ofFeatures features).Indexed where
  next := Nat.succ_pos _
  current := fun h => (h rfl).elim

namespace Indexed

theorem congr (i : d.Indexed) (hn : d'.nextIndex = d.nextIndex) (hi : d'.index = d.index)
    (hr : d'.rings ≠ [] → d.rings ≠ []) : d'.Indexed where
  next := hn ▸ i.next
  current := fun h => hi ▸ hn ▸ i.current (hr h)

theorem attach (i : d.Indexed) (flags : TunFlags) (name : String) :
    (d.attach flags name).Indexed := by
  by_cases hr : d.rings = []
  case pos =>
    simp only [MemoryTap.attach, createInterface, hr, List.isEmpty_nil, if_true]
    exact ⟨Nat.succ_pos _, fun _ => ⟨i.next, Nat.lt_succ_self _⟩⟩
  case neg =>
    have s := same_attach hr flags name
    exact i.congr s.next s.index fun _ => hr

theorem detach (i : d.Indexed) : (d.detach id).Indexed where
  next := by
    rw [nextIndex_detach]
    exact i.next
  current := by
    intro hr
    rw [(same_detach hr).index, nextIndex_detach]
    apply i.current
    intro h
    simp [MemoryTap.detach, h] at hr

theorem control (i : d.Indexed) (c : Control) : (MemoryTap.control c d).2.Indexed :=
  i.congr (same_control c).next (same_control c).index (rings_of_attached (attached_control c))

end Indexed

theorem custody_indexed : Custody fun (d : MemoryTap) (_ : List Nat) => d.Indexed where
  perm _ i := i
  refused h i := openQueue_error h ▸ i
  opened h i := by
    obtain ⟨flags, -, -, -, rfl⟩ := openQueue_ok h
    exact i.attach flags _
  close i := i.detach
  read n _ i := i.congr (same_read n).next (same_read n).index (rings_of_attached (attached_read n))
  write bs _ i :=
    i.congr (same_write bs).next (same_write bs).index (rings_of_attached (attached_write bs))
  pollWritable _ i := i
  address _ i := guardAddress_cases (P := Indexed) i i
  setAddress mac _ i := by
    refine guardAddress_cases (P := Indexed) i ?_
    exact i.congr rfl rfl fun h => h
  index _ i := i

end MemoryTap

end TapPort
