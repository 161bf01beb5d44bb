import TapPort.Proofs.Device.Rings
import TapPort.Proofs.Port.Independence

namespace TapPort

namespace MemoryTap

def tail (r : Ring) : Ring := { r with frames := r.frames.tail }

-- Rings after a read from a queue.
def popped (id : Nat) : List Ring → List Ring
  | [] => []
  | r :: rs => if r.queue = id then tail r :: rs else r :: popped id rs

-- What is read if these frames wait.
def readOf (room : Nat) : List Bytes → Read
  | [] => ⟨[], .error (.kind .wouldBlock)⟩
  | frame :: _ => ⟨frame.take room, .ok (frame.take room).length⟩

section Rings

variable {id id' i : Nat} {rs : List Ring}

theorem popped_comm (h : id ≠ id') (rs : List Ring) :
    popped id (popped id' rs) = popped id' (popped id rs) := by
  induction rs
  case nil => rfl
  case cons r rs ih =>
    by_cases h₁ : r.queue = id
    case pos => simp [popped, tail, h₁, h]
    case neg => by_cases h₂ : r.queue = id' <;> simp [popped, tail, h₁, h₂, h.symm, ih]

theorem find?_popped (h : id ≠ id') (rs : List Ring) :
    (popped id' rs).find? (·.queue == id) = rs.find? (·.queue == id) := by
  induction rs
  case nil => rfl
  case cons r rs ih =>
    by_cases hq : r.queue = id'
    case pos => simp [popped, tail, hq, h.symm]
    case neg => simp [popped, hq, List.find?_cons, ih]

theorem popped_of_nil (h : ((rs.find? (·.queue == id)).map (·.frames)).getD [] = []) :
    popped id rs = rs := by
  induction rs
  case nil => rfl
  case cons r rs ih =>
    by_cases hq : r.queue = id
    case pos =>
      have hf : r.frames = [] := by simpa [List.find?_cons, hq] using h
      have ht : tail r = r := by
        cases r
        cases hf
        rfl
      simp [popped, hq, ht]
    case neg =>
      have hr : popped id rs = rs := ih (by simpa [List.find?_cons, hq] using h)
      simp [popped, hq, hr]

theorem popped_of_some (h : rs.findIdx? (·.queue == id) = some i) :
    popped id rs = rs.modify i tail := by
  induction rs generalizing i
  case nil => cases h
  case cons r rs ih =>
    by_cases hq : r.queue = id
    case pos =>
      simp [List.findIdx?_cons, hq] at h
      simp [popped, hq, ← h]
    case neg =>
      simp [List.findIdx?_cons, hq] at h
      have ⟨j, hj, hi⟩ := h
      simp [popped, hq, ← hi, ih hj]

end Rings

section Read

variable {d : MemoryTap} {id id' i : Nat}

theorem framesOf_popped (h : id ≠ id') :
    { d with rings := popped id' d.rings }.framesOf id = d.framesOf id := by
  rw [framesOf, framesOf, find?_popped h]

theorem framesOf_of_some (h : d.rings.findIdx? (·.queue == id) = some i) :
    d.framesOf id = (d.rings[i]?.map Ring.frames).getD [] := by
  rw [framesOf, List.find?_eq_getElem?_findIdx, (List.findIdx?_eq_some_iff_findIdx_eq.1 h).2]

theorem modify_tail {rs : List Ring} {frames : List Bytes}
    (h : (rs[i]?.map Ring.frames).getD [] = frames) :
    rs.modify i tail = rs.modify i ({ · with frames := frames.tail }) := by
  apply List.ext_getElem?
  intro n
  simp only [List.getElem?_modify]
  split
  case isFalse => rfl
  case isTrue hn =>
    subst hn h
    cases rs[i]? <;> rfl

-- A read looks at the frames of its queue, and takes the first of them.
theorem read_eq (room : Nat) (d : MemoryTap) :
    d.read id room = (readOf room (d.framesOf id), { d with rings := popped id d.rings }) := by
  cases hf : d.framesOf id
  case nil =>
    rw [read_of_nil hf, popped_of_nil hf]
    rfl
  case cons frame rest =>
    simp only [read]
    split
    case h_1 hn =>
      have hm : id ∉ d.attached := by
        intro hm
        obtain ⟨r, hr, hq⟩ := List.mem_map.1 hm
        simpa [hq] using List.findIdx?_eq_none_iff.1 hn r hr
      rw [framesOf_of_not_mem hm] at hf
      cases hf
    case h_2 i hi =>
      rw [framesOf_of_some hi] at hf
      rw [popped_of_some hi, modify_tail hf, hf]
      rfl

-- Writing neither looks at the rings nor changes them.
theorem write_rings (rings : List Ring) (bs : Bytes) (d : MemoryTap) :
    write bs { d with rings } = ((write bs d).1, { (write bs d).2 with rings }) := by
  simp only [write]
  split
  case isTrue => rfl
  case isFalse => split <;> rfl

end Read

theorem rings_write (bs : Bytes) (d : MemoryTap) : (write bs d).2.rings = d.rings := by
  simp only [write]
  split
  case isTrue => rfl
  case isFalse => split <;> rfl

theorem apart_of_ne {id id' : Nat} (h : id ≠ id') : Device.Apart (δ := MemoryTap) id id' where
  read n n' d := by
    change Independent (MemoryTap.read id n) (MemoryTap.read id' n') d
    constructor
    case left => simp only [read_eq, framesOf_popped h]
    case right => simp only [read_eq, framesOf_popped h.symm]
    case state => simp only [read_eq, popped_comm h]
  pollWritable n d := by
    change Independent (MemoryTap.read id n) _ d
    constructor
    case left => rfl
    case right =>
      simp only [read_eq]
      rfl
    case state =>
      simp only [read_eq]
      rfl
  write n bs d := by
    change Independent (MemoryTap.read id n) (MemoryTap.write bs) d
    constructor
    case left => simp only [read_eq, framesOf, rings_write]
    case right => simp only [read_eq, write_rings]
    case state => simp only [read_eq, write_rings, rings_write]

end MemoryTap

end TapPort
