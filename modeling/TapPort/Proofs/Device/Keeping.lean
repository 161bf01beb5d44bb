import TapPort.Proofs.Device.Rings
import TapPort.Proofs.Upkeep

namespace TapPort

namespace MemoryTap

variable {d d₁ d₂ : MemoryTap} {id : Nat}

-- That the ids of the open queues differ, and that none of them is still to be given.
structure Distinct (d : MemoryTap) : Prop where
  nodup : d.attached.Nodup
  bounded : ∀ id ∈ d.attached, id ≤ d.opens

theorem distinct_ofFeatures (features : TunFlags) : (ofFeatures features).Distinct :=
  ⟨.nil, nofun⟩

namespace Distinct

theorem congr (h : d₁.Distinct) (ha : d₂.attached = d₁.attached) (ho : d₂.opens = d₁.opens) :
    d₂.Distinct :=
  ⟨ha ▸ h.nodup, ha ▸ ho ▸ h.bounded⟩

theorem not_mem (h : d.Distinct) {n : Nat} (hn : d.opens < n) : n ∉ d.attached :=
  fun hm => Nat.not_le.2 hn (h.bounded n hm)

theorem attach (h : d.Distinct) (flags : TunFlags) (name : String) :
    (d.attach flags name).Distinct := by
  constructor
  case nodup =>
    rw [attached_attach, List.nodup_append]
    refine ⟨h.nodup, List.nodup_singleton _, ?_⟩
    intro a ha b hb hab
    cases List.mem_singleton.1 hb
    exact Nat.not_succ_le_self _ (hab ▸ h.bounded a ha)
  case bounded =>
    rw [attached_attach, opens_attach]
    intro i hi
    cases List.mem_append.1 hi
    case inl hi => exact Nat.le_succ_of_le (h.bounded i hi)
    case inr hi => exact Nat.le_of_eq (List.mem_singleton.1 hi)

theorem detach (h : d.Distinct) (id : Nat) : (d.detach id).Distinct := by
  by_cases hm : id ∈ d.attached
  case pos =>
    have hp := attached_detach hm
    refine ⟨(List.nodup_cons.1 (hp.nodup_iff.1 h.nodup)).2, ?_⟩
    rw [opens_detach]
    exact fun i hi => h.bounded i (hp.mem_iff.2 (List.mem_cons_of_mem _ hi))
  case neg => exact (detach_of_not_mem hm).symm ▸ h

end Distinct

-- That the frames of a device are those it had before: those of queues that stay wait there, those
-- of queues that went are counted as dropped, and nothing waits in a queue that is new.
structure Keeps (d d' : MemoryTap) : Prop where
  opens : d.opens ≤ d'.opens
  total : d'.pending + d'.dropped = d.pending + d.dropped
  frames : ∀ id ∈ d'.attached, id ∈ d.attached ∧ d'.framesOf id = d.framesOf id ∨
    d.opens < id ∧ d'.framesOf id = []

namespace Keeps

theorem ofRings (hr : d₂.rings = d₁.rings) (ho : d₂.opens = d₁.opens)
    (hd : d₂.dropped = d₁.dropped) : d₁.Keeps d₂ where
  opens := Nat.le_of_eq ho.symm
  total := by rw [pending_eq, pending_eq, hr, hd]
  frames := by
    intro i hi
    rw [attached, hr] at hi
    exact .inl ⟨hi, framesOf_congr hr i⟩

theorem refl (d : MemoryTap) : d.Keeps d := ofRings rfl rfl rfl

theorem trans {d₃ : MemoryTap} (h : d₁.Keeps d₂) (h' : d₂.Keeps d₃) : d₁.Keeps d₃ where
  opens := Nat.le_trans h.opens h'.opens
  total := h'.total.trans h.total
  frames := by
    intro i hi
    cases h'.frames i hi
    case inl hi =>
      cases h.frames i hi.1
      case inl hi' => exact .inl ⟨hi'.1, hi.2.trans hi'.2⟩
      case inr hi' => exact .inr ⟨hi'.1, hi.2.trans hi'.2⟩
    case inr hi => exact .inr ⟨Nat.lt_of_le_of_lt h.opens hi.1, hi.2⟩

theorem attach (h : d.Distinct) (flags : TunFlags) (name : String) :
    d.Keeps (d.attach flags name) where
  opens := opens_attach flags name ▸ Nat.le_succ _
  total := by rw [pending_attach, dropped_attach]
  frames := by
    rw [attached_attach]
    intro i hi
    rw [framesOf_attach]
    cases List.mem_append.1 hi
    case inl hi => exact .inl ⟨hi, rfl⟩
    case inr hi =>
      have hl : d.opens < i := List.mem_singleton.1 hi ▸ Nat.lt_succ_self _
      exact .inr ⟨hl, framesOf_of_not_mem (h.not_mem hl)⟩

theorem detach (h : d.Distinct) (id : Nat) : d.Keeps (d.detach id) := by
  by_cases hm : id ∈ d.attached
  case neg => exact (detach_of_not_mem hm).symm ▸ refl d
  case pos =>
    have hp := attached_detach hm
    have hn := List.nodup_cons.1 (hp.nodup_iff.1 h.nodup)
    refine ⟨Nat.le_of_eq opens_detach.symm, pending_detach, ?_⟩
    intro i hi
    have hne : i ≠ id := fun he => hn.1 (he ▸ hi)
    rw [framesOf_detach h.nodup, if_neg hne]
    exact .inl ⟨hp.mem_iff.2 (List.mem_cons_of_mem _ hi), rfl⟩

end Keeps

-- Writing a frame concerns what was sent, and how much more may be.
theorem write_frame (bs : Bytes) (d : MemoryTap) :
    ∃ sent budget, (write bs d).2 = { d with sent, budget } := by
  simp only [write]
  split
  case isTrue => exact ⟨_, _, rfl⟩
  case isFalse => split <;> exact ⟨_, _, rfl⟩

theorem upkeep_keeps (d₀ : MemoryTap) : Upkeep fun d => d.Distinct ∧ d₀.Keeps d := by
  have same {d d' : MemoryTap} (h : d.Distinct ∧ d₀.Keeps d) (hr : d'.rings = d.rings)
      (ho : d'.opens = d.opens) (hd : d'.dropped = d.dropped) : d'.Distinct ∧ d₀.Keeps d' := by
    have ha : d'.attached = d.attached := by rw [attached, hr, attached]
    exact ⟨h.1.congr ha ho, h.2.trans (.ofRings hr ho hd)⟩
  constructor
  case openQueue =>
    intro d name n h
    change (openQueue name n d).2.Distinct ∧ d₀.Keeps (openQueue name n d).2
    generalize hr : openQueue name n d = r
    rcases r with ⟨_ | ⟨_, given⟩, d'⟩
    case error => exact openQueue_error hr ▸ h
    case ok =>
      obtain ⟨flags, _, _, _, hd⟩ := openQueue_ok hr
      exact hd ▸ ⟨h.1.attach flags given, h.2.trans (.attach h.1 flags given)⟩
  case write =>
    intro d id bs h
    obtain ⟨_, _, hw⟩ := write_frame bs d
    change (write bs d).2.Distinct ∧ d₀.Keeps (write bs d).2
    exact hw ▸ same h rfl rfl rfl
  case pollWritable | index => exact fun _ h => h
  case address =>
    intro d id h
    exact guardAddress_cases (P := fun d => d.Distinct ∧ d₀.Keeps d) h h
  case setAddress =>
    intro d id mac h
    refine guardAddress_cases (P := fun d => d.Distinct ∧ d₀.Keeps d) h ?_
    exact same h rfl rfl rfl
  case close =>
    intro d id h
    exact ⟨h.1.detach id, h.2.trans (.detach h.1 id)⟩

end MemoryTap

end TapPort
