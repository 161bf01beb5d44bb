import Mathlib.Data.List.Induction
import TapPort.Device.Memory
import TapPort.Proofs.Custody

namespace TapPort

namespace MemoryTap

theorem swapRemove_perm {α : Type} {l : List α} {i : Nat} {y : α} (h : l[i]? = some y) :
    l.Perm (y :: swapRemove l i) := by
  obtain ⟨hi, rfl⟩ := List.getElem?_eq_some_iff.1 h
  cases l using List.reverseRecOn
  case nil => exact (Nat.not_lt_zero i hi).elim
  case append_singleton l a _ =>
    rw [swapRemove, List.getLast?_concat]
    dsimp only
    by_cases he : i = l.length
    case pos =>
      subst he
      rw [List.set_append_right _ _ (Nat.le_refl _)]
      simp
    case neg =>
      have hl : i < l.length := by
        simp only [List.length_append, List.length_singleton] at hi
        omega
      rw [List.set_append_left _ _ hl, List.dropLast_concat, List.getElem_append_left hl]
      calc l ++ [a]
        _ |>.Perm (a :: l) := List.perm_append_comm
        _ |>.Perm (a :: l[i] :: l.eraseIdx i) := (List.getElem_cons_eraseIdx_perm hl).symm.cons a
        _ |>.Perm (l[i] :: a :: l.eraseIdx i) := .swap ..
        _ |>.Perm (l[i] :: l.set i a) := (List.set_perm_cons_eraseIdx hl a).symm.cons _

theorem fits_iff {d : MemoryTap} :
    d.fits = true ↔
      d.opens < UInt32.size ∧ d.nextIndex < UInt32.size ∧ d.dropped < UInt64.size := by
  simp only [fits, Bool.and_eq_true, decide_eq_true_eq, and_assoc]

theorem not_halted_iff {d : MemoryTap} : Device.halted d = false ↔ d.fits = true :=
  iff_of_eq (Bool.not_eq_false' d.fits)

-- The ids of the open queues.
def attached (d : MemoryTap) : List Nat := d.rings.map (·.queue)

section Calls

variable {d d' : MemoryTap} {id : Nat}

theorem openQueue_ok {name : Option String} {n : UInt16} {given : String}
    (h : openQueue name n d = (.ok (id, given), d')) :
    ∃ flags, d.agree name n = .ok flags ∧ id = d.opens + 1 ∧ given = d.nameFor name ∧
      d' = d.attach flags given := by
  unfold openQueue at h
  split at h
  case h_1 => cases h
  case h_2 flags ha =>
    simp only [Prod.mk.injEq, Except.ok.injEq] at h
    obtain ⟨⟨rfl, rfl⟩, rfl⟩ := h
    refine ⟨flags, ha, ?_, rfl, rfl⟩
    simp only [attach, createInterface]
    split <;> rfl

theorem openQueue_error {name : Option String} {n : UInt16} {e : Error}
    (h : openQueue name n d = (.error e, d')) : d' = d := by
  unfold openQueue at h
  split at h
  case h_1 => exact (congrArg Prod.snd h).symm
  case h_2 => cases h

theorem attached_attach (flags : TunFlags) (name : String) :
    (d.attach flags name).attached = d.attached ++ [d.opens + 1] := by
  simp [attached, rings_attach]

theorem opens_attach (flags : TunFlags) (name : String) :
    (d.attach flags name).opens = d.opens + 1 := by
  simp only [attach, createInterface]
  split <;> rfl

-- Closing a queue concerns the rings, and what there is of an interface.
theorem detach_frame (d : MemoryTap) (id : Nat) : ∃ rings dropped index address,
    d.detach id = { d with rings, dropped, index, address } := by
  unfold detach
  split
  case h_1 => exact ⟨_, _, _, _, rfl⟩
  case h_2 =>
    dsimp only
    split <;> exact ⟨_, _, _, _, rfl⟩

theorem opens_detach : (d.detach id).opens = d.opens := by
  obtain ⟨_, _, _, _, h⟩ := d.detach_frame id
  rw [h]

theorem nextIndex_detach : (d.detach id).nextIndex = d.nextIndex := by
  obtain ⟨_, _, _, _, h⟩ := d.detach_frame id
  rw [h]

theorem attached_detach (hm : id ∈ d.attached) :
    d.attached.Perm (id :: (d.detach id).attached) := by
  obtain ⟨r, hr, hq⟩ := List.mem_map.1 hm
  unfold detach
  split
  case h_1 hn =>
    have hne := List.findIdx?_eq_none_iff.1 hn r hr
    simp [hq] at hne
  case h_2 i hi =>
    obtain ⟨hl, he, -⟩ := List.findIdx?_eq_some_iff_getElem.1 hi
    have hp := (swapRemove_perm (List.getElem?_eq_getElem hl)).map (·.queue)
    rw [List.map_cons, beq_iff_eq.1 he] at hp
    dsimp only
    split <;> exact hp

theorem attached_read (n : Nat) : (d.read id n).2.attached = d.attached := by
  unfold read
  split
  case h_1 => rfl
  case h_2 =>
    split
    case h_1 => rfl
    case h_2 =>
      refine map_modify ?_ d.rings _
      exact fun _ => rfl

theorem opens_read (n : Nat) : (d.read id n).2.opens = d.opens := by
  unfold read
  split
  case h_1 => rfl
  case h_2 => split <;> rfl

theorem attached_pushTo (slot : Nat) (frame : Bytes) (n : Nat) :
    (d.pushTo slot frame n).attached = d.attached := by
  unfold pushTo
  split
  case isTrue => rfl
  case isFalse =>
    refine map_modify ?_ d.rings _
    exact fun _ => rfl

theorem opens_pushTo (slot : Nat) (frame : Bytes) (n : Nat) :
    (d.pushTo slot frame n).opens = d.opens := by
  unfold pushTo
  split <;> rfl

theorem attached_control (c : Control) : (control c d).2.attached = d.attached := by
  cases c
  case push | pushTo => exact attached_pushTo ..
  all_goals rfl

theorem opens_control (c : Control) : (control c d).2.opens = d.opens := by
  cases c
  case push | pushTo => exact opens_pushTo ..
  all_goals rfl

theorem attached_write (bs : Bytes) : (write bs d).2.attached = d.attached := by
  unfold write
  split
  case isTrue => rfl
  case isFalse => split <;> rfl

theorem opens_write (bs : Bytes) : (write bs d).2.opens = d.opens := by
  unfold write
  split
  case isTrue => rfl
  case isFalse => split <;> rfl

theorem guardAddress_cases {α : Type} {P : MemoryTap → Prop} {r : α × MemoryTap} (hd : P d)
    (hr : P r.2) : P (d.guardAddress r).2 := by
  unfold guardAddress
  split
  case isTrue => exact hd
  case isFalse => exact hr

end Calls

-- That no count of a device is behind what it was.
structure Grows (d d' : MemoryTap) : Prop where
  opens : d.opens ≤ d'.opens
  nextIndex : d.nextIndex ≤ d'.nextIndex
  dropped : d.dropped ≤ d'.dropped

namespace Grows

variable {d d' d'' : MemoryTap}

theorem refl (d : MemoryTap) : d.Grows d := ⟨Nat.le_refl _, Nat.le_refl _, Nat.le_refl _⟩

theorem fits (g : d.Grows d') (h : d'.fits = true) : d.fits = true := by
  have ⟨ho, hi, hd⟩ := fits_iff.1 h
  exact fits_iff.2 ⟨Nat.lt_of_le_of_lt g.opens ho, Nat.lt_of_le_of_lt g.nextIndex hi,
    Nat.lt_of_le_of_lt g.dropped hd⟩

theorem attach (g : d.Grows d') (flags : TunFlags) (name : String) :
    d.Grows (d'.attach flags name) := by
  simp only [MemoryTap.attach, createInterface]
  split
  case isTrue => exact ⟨Nat.le_succ_of_le g.opens, Nat.le_succ_of_le g.nextIndex, g.dropped⟩
  case isFalse => exact ⟨Nat.le_succ_of_le g.opens, g.nextIndex, g.dropped⟩

theorem detach (g : d.Grows d') (id : Nat) : d.Grows (d'.detach id) := by
  unfold MemoryTap.detach
  split
  case h_1 => exact g
  case h_2 =>
    dsimp only
    split <;> exact ⟨g.opens, g.nextIndex, Nat.le_add_right_of_le g.dropped⟩

theorem read (g : d.Grows d') (id n : Nat) : d.Grows (d'.read id n).2 := by
  unfold MemoryTap.read
  split
  case h_1 => exact g
  case h_2 => split <;> exact ⟨g.opens, g.nextIndex, g.dropped⟩

theorem write (g : d.Grows d') (bs : Bytes) : d.Grows (MemoryTap.write bs d').2 := by
  unfold MemoryTap.write
  split
  case isTrue => exact g
  case isFalse => split <;> exact ⟨g.opens, g.nextIndex, g.dropped⟩

theorem pushTo (g : d.Grows d') (slot : Nat) (frame : Bytes) (n : Nat) :
    d.Grows (d'.pushTo slot frame n) := by
  unfold MemoryTap.pushTo
  split
  case isTrue => exact ⟨g.opens, g.nextIndex, Nat.le_add_right_of_le g.dropped⟩
  case isFalse => exact ⟨g.opens, g.nextIndex, g.dropped⟩

theorem control (g : d.Grows d') (c : Control) : d.Grows (MemoryTap.control c d').2 := by
  cases c
  case push | pushTo => exact g.pushTo ..
  all_goals exact ⟨g.opens, g.nextIndex, g.dropped⟩

end Grows

theorem custody_grows (d₀ : MemoryTap) : Custody fun d (_ : List Nat) => d₀.Grows d where
  perm _ g := g
  refused h g := openQueue_error h ▸ g
  opened h g := by
    obtain ⟨flags, -, -, -, rfl⟩ := openQueue_ok h
    exact g.attach flags _
  close g := g.detach _
  read n _ g := g.read _ n
  write bs _ g := g.write bs
  pollWritable _ g := g
  address _ g := guardAddress_cases (P := d₀.Grows) g g
  setAddress mac _ g := guardAddress_cases (P := d₀.Grows) g ⟨g.opens, g.nextIndex, g.dropped⟩
  index _ g := g

-- That the open queues are those whose descriptors are held. Ids are given in order.
structure Serves (d : MemoryTap) (hs : List Nat) : Prop where
  attached : d.attached.Perm hs
  nodup : hs.Nodup
  bounded : ∀ h ∈ hs, h ≤ d.opens

theorem serves_ofFeatures (features : TunFlags) : (ofFeatures features).Serves [] where
  attached := .nil
  nodup := .nil
  bounded := nofun

namespace Serves

variable {d d' : MemoryTap} {hs : List Nat}

theorem congr (s : d.Serves hs) (ha : d'.attached = d.attached) (ho : d'.opens = d.opens) :
    d'.Serves hs where
  attached := ha ▸ s.attached
  nodup := s.nodup
  bounded := ho ▸ s.bounded

theorem control (s : d.Serves hs) (c : Control) : (MemoryTap.control c d).2.Serves hs :=
  s.congr (attached_control c) (opens_control c)

theorem opened (s : d.Serves hs) (flags : TunFlags) (name : String) :
    (d.attach flags name).Serves ((d.opens + 1) :: hs) where
  attached := by
    rw [attached_attach]
    exact List.perm_append_comm.trans (s.attached.cons _)
  nodup := by
    refine List.nodup_cons.2 ⟨?_, s.nodup⟩
    intro hm
    exact Nat.not_succ_le_self _ (s.bounded _ hm)
  bounded := by
    rw [opens_attach]
    intro h hm
    cases List.mem_cons.1 hm
    case inl he => exact Nat.le_of_eq he
    case inr hm => exact Nat.le_succ_of_le (s.bounded h hm)

theorem closed {h : Nat} (s : d.Serves (h :: hs)) : (d.detach h).Serves hs where
  attached := by
    have hm := s.attached.mem_iff.2 List.mem_cons_self
    exact ((attached_detach hm).symm.trans s.attached).cons_inv
  nodup := (List.nodup_cons.1 s.nodup).2
  bounded := by
    rw [opens_detach]
    exact fun h hm => s.bounded h (List.mem_cons_of_mem _ hm)

end Serves

theorem custody_serves : Custody Serves where
  perm hp s :=
    ⟨s.attached.trans hp, hp.nodup_iff.1 s.nodup, fun h hm => s.bounded h (hp.mem_iff.2 hm)⟩
  refused h s := openQueue_error h ▸ s
  opened h s := by
    obtain ⟨flags, -, rfl, -, rfl⟩ := openQueue_ok h
    exact s.opened flags _
  close s := s.closed
  read n _ s := s.congr (attached_read n) (opens_read n)
  write bs _ s := s.congr (attached_write bs) (opens_write bs)
  pollWritable _ s := s
  address _ s := guardAddress_cases (P := (·.Serves _)) s s
  setAddress mac _ s := by
    refine guardAddress_cases (P := (·.Serves _)) s ?_
    exact s.congr rfl rfl
  index _ s := s

end MemoryTap

end TapPort
