import TapPort.Proofs.Registry.Registered

namespace TapPort

variable {κ δ χ ρ : Type}

namespace Registry

def ids (r : Registry δ κ) : List UInt16 := r.registered.map Port.id

section LowestFree

variable {r : Registry δ κ} {id : UInt16}

-- The number that is tried as an id.
def leastFree (r : Registry δ κ) : Nat :=
  leastUnused r.registered.length 0 (r.registered.map fun p => p.id.toNat)

theorem mem_ids : id ∈ r.ids ↔ id.toNat ∈ r.registered.map fun p => p.id.toNat := by
  simp only [ids, List.mem_map, UInt16.toNat_inj]

theorem leastFree_not_mem (h : r.leastFree = id.toNat) : id ∉ r.ids := by
  rw [mem_ids, ← h]
  exact leastUnused_not_mem (Nat.le_of_eq (List.length_map _))

theorem mem_of_lt_leastFree (h : id.toNat < r.leastFree) : id ∈ r.ids :=
  mem_ids.2 (mem_of_lt_leastUnused (Nat.zero_le _) h)

theorem lowestFreeId_eq (r : Registry δ κ) :
    r.lowestFreeId = if r.leastFree < idLimit then some (UInt16.ofNat r.leastFree) else none := by
  simp only [lowestFreeId, leastFree, List.length_map]
  rfl

theorem lowestFreeId_some (h : r.lowestFreeId = some id) :
    id ∉ r.ids ∧ ∀ id' < id, id' ∈ r.ids := by
  rw [lowestFreeId_eq] at h
  split at h
  case isFalse => cases h
  case isTrue hl =>
    cases h
    have he : (UInt16.ofNat r.leastFree).toNat = r.leastFree := UInt16.toNat_ofNat_of_lt' hl
    constructor
    case left => exact leastFree_not_mem he.symm
    case right =>
      intro id' hi
      apply mem_of_lt_leastFree
      exact he ▸ UInt16.lt_iff_toNat_lt.1 hi

theorem lowestFreeId_eq_none : r.lowestFreeId = none ↔ ∀ id, id ∈ r.ids := by
  rw [lowestFreeId_eq]
  constructor
  case mp =>
    intro h id
    split at h
    case isTrue => cases h
    case isFalse hl =>
      apply mem_of_lt_leastFree
      exact Nat.lt_of_lt_of_le id.toNat_lt (Nat.le_of_not_lt hl)
  case mpr =>
    intro h
    apply if_neg
    intro hl
    have he : (UInt16.ofNat r.leastFree).toNat = r.leastFree := UInt16.toNat_ofNat_of_lt' hl
    exact leastFree_not_mem he.symm (h _)

end LowestFree

-- Walks ids from one on to the first that is left out. After the last one there is none.
def firstGap (start : UInt16) : List UInt16 → Option UInt16
  | [] => some start
  | u :: rest =>
    if u ≠ start then some start
    else if start.toNat + 1 < idLimit then firstGap (start + 1) rest
    else none

section Gap

variable {start gap : UInt16} {l : List UInt16}

theorem toNat_add_one (h : start.toNat + 1 < idLimit) : (start + 1).toNat = start.toNat + 1 := by
  rw [UInt16.toNat_add]
  exact Nat.mod_eq_of_lt h

theorem add_one_le_iff (h : start.toNat + 1 < idLimit) {id : UInt16} :
    start + 1 ≤ id ↔ start < id := by
  rw [UInt16.le_iff_toNat_le, UInt16.lt_iff_toNat_lt, toNat_add_one h, Nat.succ_le_iff]

theorem firstGap_some (hs : l.Pairwise (· < ·)) (hl : ∀ u ∈ l, start ≤ u)
    (h : firstGap start l = some gap) :
    start ≤ gap ∧ gap ∉ l ∧ ∀ id, start ≤ id → id < gap → id ∈ l := by
  induction l generalizing start
  case nil =>
    obtain rfl := Option.some.inj h
    exact ⟨Std.le_refl start, List.not_mem_nil, fun _ hi hg => absurd hg (Std.not_lt.2 hi)⟩
  case cons u l ih =>
    have ⟨hu, hs⟩ := List.pairwise_cons.1 hs
    simp only [firstGap] at h
    split at h
    case isTrue hne =>
      obtain rfl := Option.some.inj h
      have hlt : start < u := Std.lt_of_le_of_ne (hl u List.mem_cons_self) (Ne.symm hne)
      have hn : ∀ v ∈ u :: l, start < v :=
        List.forall_mem_cons.2 ⟨hlt, fun v hv => Std.lt_trans hlt (hu v hv)⟩
      exact ⟨Std.le_refl start, fun hm => Std.lt_irrefl (hn _ hm),
        fun _ hi hg => absurd hg (Std.not_lt.2 hi)⟩
    case isFalse he =>
      obtain rfl := Decidable.not_not.1 he
      split at h
      case isFalse => cases h
      case isTrue hn =>
        have ⟨hg, hm, hb⟩ := ih hs (fun v hv => (add_one_le_iff hn).2 (hu v hv)) h
        replace hg := (add_one_le_iff hn).1 hg
        have hne := (UInt16.ne_of_lt hg).symm
        refine ⟨Std.le_of_lt hg, List.not_mem_cons_of_ne_of_not_mem hne hm, ?_⟩
        intro id hi hlt
        by_cases he : id = u
        case pos => exact he ▸ List.mem_cons_self
        case neg =>
          have hlt' : u < id := Std.lt_of_le_of_ne hi (Ne.symm he)
          exact List.mem_cons_of_mem _ (hb id ((add_one_le_iff hn).2 hlt') hlt)

theorem firstGap_none (h : firstGap start l = none) : ∀ id, start ≤ id → id ∈ l := by
  induction l generalizing start
  case nil => cases h
  case cons u l ih =>
    simp only [firstGap] at h
    split at h
    case isTrue => cases h
    case isFalse he =>
      obtain rfl := Decidable.not_not.1 he
      intro id hi
      by_cases he : id = u
      case pos => exact he ▸ List.mem_cons_self
      case neg =>
        have hlt : u < id := Std.lt_of_le_of_ne hi (Ne.symm he)
        apply List.mem_cons_of_mem
        split at h
        case isTrue hn => exact ih h id ((add_one_le_iff hn).2 hlt)
        case isFalse hn =>
          have hb := id.toNat_lt
          rw [UInt16.lt_iff_toNat_lt] at hlt
          simp only [idLimit] at hn
          omega

-- Distinct ids in ascending order leave out the least free one first.
theorem lowestFreeId_eq_firstGap {r : Registry δ κ} (hn : r.ids.Nodup) (hp : l.Perm r.ids)
    (hs : l.Pairwise (· ≤ ·)) : r.lowestFreeId = firstGap 0 l := by
  have hs : l.Pairwise (· < ·) :=
    (hs.and (hp.nodup_iff.2 hn)).imp fun h => Std.lt_of_le_of_ne h.1 h.2
  have hz (u : UInt16) : 0 ≤ u := UInt16.le_iff_toNat_le.2 (Nat.zero_le _)
  cases hg : firstGap 0 l
  case none => exact lowestFreeId_eq_none.2 fun id => hp.mem_iff.1 (firstGap_none hg id (hz id))
  case some gap =>
    have ⟨_, hn, hb⟩ := firstGap_some hs (fun u _ => hz u) hg
    rw [hp.mem_iff] at hn
    cases hl : r.lowestFreeId
    case none => exact absurd (lowestFreeId_eq_none.1 hl gap) hn
    case some id =>
      have ⟨hn', hb'⟩ := lowestFreeId_some hl
      congr 1
      apply Std.le_antisymm
      case hab => exact Std.not_lt.1 fun h => hn (hb' gap h)
      case hba => exact Std.not_lt.1 fun h => hn' (hp.mem_iff.1 (hb id (hz id) h))

end Gap

section Move

variable {r r' : Registry δ κ} [Device δ κ] [Controlled δ χ ρ]

-- As a new port gets an id that no other registered port has, no two of them have one id.
theorem Move.nodup_ids (m : r.Move r') (i : r.Intact) (ht : ∀ p ∈ r.ports, p.Titled)
    (h : r.ids.Nodup) : r'.ids.Nodup := by
  have set {place : Nat} {p p' : Port κ} {dev : δ} (hp : r.ports[place]? = some p)
      (s : Port.Steps p r.dev p' dev) :
      (⟨dev, r.ports.set place p', r.names, r.unit⟩ : Registry δ κ).ids.Nodup := by
    have hi := (s.title (ht p (List.mem_of_getElem? hp))).id
    rwa [ids, map_registered_set hp hi]
  cases m
  case rest => exact h
  case failed => exact h
  case controlled => exact h
  case made name _ _ _ p dev unit _ hl _ m =>
    have hp := (registered_made i.bounded name p dev unit).map Port.id
    rw [ids, hp.nodup_iff, List.map_cons, m.title.2.1]
    exact List.nodup_cons.2 ⟨(lowestFreeId_some hl).1, h⟩
  case carried hp s => exact set hp s
  case removed hp hs =>
    have hn := set hp (Port.Steps.refl.shutdown hs)
    exact hn.sublist ((registered_filter ..).map Port.id)

end Move

end Registry

end TapPort
