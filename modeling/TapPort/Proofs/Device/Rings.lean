import Mathlib.Algebra.BigOperators.Group.List.Basic
import Mathlib.Algebra.Ring.Nat
import Mathlib.Data.List.Nodup
import TapPort.Proofs.Device.Memory

namespace TapPort

namespace MemoryTap

-- The frames that wait for a queue.
def framesOf (d : MemoryTap) (id : Nat) : List Bytes :=
  ((d.rings.find? (·.queue == id)).map (·.frames)).getD []

def consumed (id k : Nat) (r : Ring) : Ring :=
  if r.queue = id then { r with frames := r.frames.drop k } else r

-- The device after the first frames of a queue were read.
def consume (d : MemoryTap) (id k : Nat) : MemoryTap :=
  { d with rings := d.rings.map (consumed id k) }

-- The queue that a frame goes to when it is pushed to a slot, if there is one.
def queueAt (d : MemoryTap) (slot : Nat) : Option Nat :=
  d.rings[slot % d.rings.length]?.map (·.queue)

variable {d : MemoryTap} {id i k : Nat} {r : Ring}

section Ring

theorem ring_ext {r' : Ring} (hn : d.attached.Nodup) (hr : r ∈ d.rings) (hr' : r' ∈ d.rings)
    (h : r.queue = r'.queue) : r = r' :=
  List.inj_on_of_nodup_map hn hr hr' h

-- A queue has one ring, and no other ring is of that queue.
theorem exists_ring (hn : d.attached.Nodup) (hm : id ∈ d.attached) :
    ∃ before r after, d.rings = before ++ r :: after ∧ r.queue = id ∧
      (∀ r' ∈ before, r'.queue ≠ id) ∧ ∀ r' ∈ after, r'.queue ≠ id := by
  obtain ⟨r, hr, hq⟩ := List.mem_map.1 hm
  obtain ⟨before, after, he⟩ := List.append_of_mem hr
  refine ⟨before, r, after, he, hq, ?_⟩
  rw [attached, he, List.map_append, List.map_cons, hq, List.nodup_append] at hn
  obtain ⟨_, ha, hb⟩ := hn
  constructor
  case left =>
    intro r' hr' hq'
    exact hb _ (List.mem_map_of_mem hr') _ List.mem_cons_self hq'
  case right =>
    intro r' hr' hq'
    exact (List.nodup_cons.1 ha).1 (List.mem_map.2 ⟨r', hr', hq'⟩)

theorem framesOf_of_mem (hn : d.attached.Nodup) (hr : r ∈ d.rings) :
    d.framesOf r.queue = r.frames := by
  simp only [framesOf]
  cases hf : d.rings.find? (·.queue == r.queue)
  case none => simpa using List.find?_eq_none.1 hf r hr
  case some r' =>
    have hq : r'.queue = r.queue := by simpa using List.find?_some hf
    rw [ring_ext hn (List.mem_of_find?_eq_some hf) hr hq]
    rfl

theorem framesOf_of_not_mem (h : id ∉ d.attached) : d.framesOf id = [] := by
  have hf : d.rings.find? (·.queue == id) = none := by
    apply List.find?_eq_none.2
    intro r hr hq
    exact h (List.mem_map.2 ⟨r, hr, beq_iff_eq.1 hq⟩)
  rw [framesOf, hf]
  rfl

theorem framesOf_congr {d' : MemoryTap} (h : d'.rings = d.rings) (id : Nat) :
    d'.framesOf id = d.framesOf id := by
  rw [framesOf, h]
  rfl

end Ring

section Consume

theorem queue_consumed (r : Ring) : (consumed id k r).queue = r.queue := by
  simp only [consumed]
  split <;> rfl

theorem map_consumed_of_ne {rs : List Ring} (h : ∀ r ∈ rs, r.queue ≠ id) :
    rs.map (consumed id k) = rs := by
  refine (List.map_congr_left fun r hr => ?_).trans (List.map_id rs)
  exact if_neg (h r hr)

theorem attached_consume : (d.consume id k).attached = d.attached := by
  rw [attached, consume, List.map_map]
  exact List.map_congr_left fun r _ => queue_consumed r

theorem framesOf_consume :
    (d.consume id k).framesOf i = if i = id then (d.framesOf i).drop k else d.framesOf i := by
  have hp : (·.queue == i) ∘ consumed id k = fun r : Ring => r.queue == i := by
    funext r
    rw [Function.comp_apply, queue_consumed]
  rw [framesOf, consume, List.find?_map, hp, framesOf]
  cases hf : d.rings.find? (·.queue == i)
  case none => simp
  case some r =>
    have hq : r.queue = i := by simpa using List.find?_some hf
    simp only [consumed, hq, Option.map_some, Option.getD_some]
    split <;> rfl

theorem framesOf_consume_self : (d.consume id k).framesOf id = (d.framesOf id).drop k := by
  rw [framesOf_consume, if_pos rfl]

theorem consume_zero : d.consume id 0 = d := by
  have h : consumed id 0 = fun r => r := by
    funext r
    simp [consumed]
  rw [consume, h, List.map_id']

theorem consume_consume (j : Nat) : (d.consume id j).consume id k = d.consume id (j + k) := by
  simp only [consume, List.map_map]
  congr 1
  apply List.map_congr_left
  intro r _
  by_cases h : r.queue = id <;> simp [consumed, h]

end Consume

section Read

-- A read reports just what it wrote.
theorem read_ok {room n : Nat} (h : (d.read id room).1.result = .ok n) :
    n = (d.read id room).1.bytes.length ∧ n ≤ room := by
  simp only [read] at h ⊢
  split at h
  case h_1 => cases h
  case h_2 =>
    split at h
    case h_1 => cases h
    case h_2 =>
      cases h
      exact ⟨rfl, List.length_take_le ..⟩

theorem read_of_nil (h : d.framesOf id = []) (room : Nat) :
    d.read id room = (⟨[], .error (.kind .wouldBlock)⟩, d) := by
  simp only [read]
  split
  case h_1 => rfl
  case h_2 j hj =>
    have hf : d.rings.find? (·.queue == id) = d.rings[j]? := by
      rw [List.find?_eq_getElem?_findIdx, (List.findIdx?_eq_some_iff_findIdx_eq.1 hj).2]
    rw [framesOf, hf] at h
    rw [h]

-- A read takes the first frame of its queue, and leaves those behind it.
theorem read_of_frames {frame : Bytes} {rest : List Bytes} (hn : d.attached.Nodup)
    (h : d.framesOf id = frame :: rest) (room : Nat) :
    d.read id room = (⟨frame.take room, .ok (frame.take room).length⟩, d.consume id 1) := by
  have hm : id ∈ d.attached := by
    by_contra hm
    simp [framesOf_of_not_mem hm] at h
  have ⟨before, r, after, he, hq, hb, ha⟩ := exists_ring hn hm
  have hr : r ∈ d.rings := by simp [he]
  have hi : d.rings.findIdx? (·.queue == id) = some before.length := by
    rw [he, List.findIdx?_append, List.findIdx?_eq_none_iff.2 (by simpa using hb)]
    simp [List.findIdx?_cons, hq]
  have hg : d.rings[before.length]? = some r := by simp [he]
  have hf : r.frames = frame :: rest := by rw [← h, ← hq, framesOf_of_mem hn hr]
  simp only [read, hi, hg, Option.map_some, Option.getD_some, hf, consume]
  congr 2
  rw [he, List.map_append, List.map_cons, map_consumed_of_ne hb, map_consumed_of_ne ha]
  simp [consumed, hq, hf, List.modify_eq_take_cons_drop]

end Read

section Attach

theorem framesOf_attach (flags : TunFlags) (name : String) :
    (d.attach flags name).framesOf i = d.framesOf i := by
  rw [framesOf, rings_attach, List.find?_append, framesOf]
  cases d.rings.find? (·.queue == i)
  case some => rfl
  case none =>
    by_cases h : d.opens + 1 = i <;> simp [h]

theorem detach_of_not_mem (h : id ∉ d.attached) : d.detach id = d := by
  simp only [detach]
  rw [List.findIdx?_eq_none_iff.2]
  intro r hr
  exact beq_eq_false_iff_ne.2 fun hq => h (List.mem_map.2 ⟨r, hr, hq⟩)

theorem framesOf_detach (hn : d.attached.Nodup) :
    (d.detach id).framesOf i = if i = id then [] else d.framesOf i := by
  by_cases hm : id ∈ d.attached
  case neg =>
    rw [detach_of_not_mem hm]
    split
    case isTrue hi => rw [hi, framesOf_of_not_mem hm]
    case isFalse => rfl
  case pos =>
    have hp := attached_detach hm
    have hn' := hp.nodup_iff.1 hn
    split
    case isTrue hi => exact framesOf_of_not_mem (hi ▸ (List.nodup_cons.1 hn').1)
    case isFalse hi =>
      by_cases hm' : i ∈ d.attached
      case pos =>
        have ⟨r, hr, hq⟩ := List.mem_map.1 hm'
        have hr' : r ∈ (d.detach id).rings := mem_rings_detach hr (hq ▸ hi)
        rw [← hq, framesOf_of_mem hn hr, framesOf_of_mem (List.nodup_cons.1 hn').2 hr']
      case neg =>
        have hm'' : i ∉ (d.detach id).attached := by
          intro h
          exact hm' (hp.mem_iff.2 (List.mem_cons_of_mem id h))
        rw [framesOf_of_not_mem hm', framesOf_of_not_mem hm'']

end Attach

section Push

theorem queueAt_mem (h : d.queueAt k = some i) : i ∈ d.attached := by
  have ⟨r, hr, hq⟩ := Option.map_eq_some_iff.1 h
  exact List.mem_map.2 ⟨r, List.mem_of_getElem? hr, hq⟩

theorem queueAt_eq_none : d.queueAt k = none ↔ d.rings = [] := by
  rw [queueAt, Option.map_eq_none_iff, List.getElem?_eq_none_iff]
  constructor
  case mp =>
    intro h
    by_contra hr
    exact Nat.not_lt.2 h (Nat.mod_lt k (List.length_pos_iff.2 hr))
  case mpr => simp +contextual

theorem pushTo_of_ne_nil (h : d.rings ≠ []) (slot : Nat) (frame : Bytes) (n : Nat) :
    d.pushTo slot frame n =
      { d with rings := d.rings.modify (slot % d.rings.length) fun r =>
        { r with frames := r.frames ++ List.replicate n frame } } := by
  rw [pushTo, if_neg (by simpa using h)]

theorem pushTo_of_nil (h : d.rings = []) (slot : Nat) (frame : Bytes) (n : Nat) :
    d.pushTo slot frame n = { d with dropped := d.dropped + n } := by
  rw [pushTo, if_pos (by simpa using h)]

-- Pushed frames go to the end of one queue.
theorem framesOf_pushTo (hn : d.attached.Nodup) (slot : Nat) (frame : Bytes) (n : Nat) :
    (d.pushTo slot frame n).framesOf i =
      if d.queueAt slot = some i then d.framesOf i ++ List.replicate n frame
      else d.framesOf i := by
  by_cases hr : d.rings = []
  case pos =>
    rw [pushTo_of_nil hr, queueAt_eq_none.2 hr]
    simp only [reduceCtorEq, if_false]
    exact framesOf_congr rfl i
  case neg =>
    have hn' : (d.pushTo slot frame n).attached.Nodup := by rwa [attached_pushTo]
    by_cases hm : i ∈ d.attached
    case neg =>
      have hq : d.queueAt slot ≠ some i := fun hq => hm (queueAt_mem hq)
      have hm' : i ∉ (d.pushTo slot frame n).attached := by rwa [attached_pushTo]
      rw [if_neg hq, framesOf_of_not_mem hm, framesOf_of_not_mem hm']
    case pos =>
      have ⟨r, hm, hi⟩ := List.mem_map.1 hm
      have ⟨j, hj⟩ := List.mem_iff_getElem?.1 hm
      have hg : (d.pushTo slot frame n).rings[j]? = some (if slot % d.rings.length = j then
          { r with frames := r.frames ++ List.replicate n frame } else r) := by
        rw [pushTo_of_ne_nil hr, List.getElem?_modify, hj]
        rfl
      have hf := framesOf_of_mem hn' (List.mem_of_getElem? hg)
      rw [← hi, framesOf_of_mem hn hm]
      by_cases hs : slot % d.rings.length = j
      case pos =>
        have hq : d.queueAt slot = some r.queue := by rw [queueAt, hs, hj, Option.map_some]
        rw [if_pos hs] at hf
        rw [if_pos hq, hf]
      case neg =>
        have hq : d.queueAt slot ≠ some r.queue := by
          intro hq
          have ⟨r', hr', hq'⟩ := Option.map_eq_some_iff.1 hq
          rw [ring_ext hn (List.mem_of_getElem? hr') hm hq'] at hr'
          have hl := (List.getElem?_eq_some_iff.1 hr').1
          have hd : d.rings.Nodup := .of_map _ hn
          exact hs ((List.getElem?_inj hl hd).1 (hr'.trans hj.symm))
        rw [if_neg hs] at hf
        rw [if_neg hq, hf]

end Push

section Pending

theorem pending_eq (d : MemoryTap) : d.pending = (d.rings.map (·.frames.length)).sum := by
  rw [pending, List.sum_eq_foldr, List.foldr_map]

theorem pending_attach (flags : TunFlags) (name : String) :
    (d.attach flags name).pending = d.pending := by
  simp [pending_eq, rings_attach]

theorem dropped_attach (flags : TunFlags) (name : String) :
    (d.attach flags name).dropped = d.dropped := by
  simp only [attach, createInterface]
  split <;> rfl

theorem pending_detach : (d.detach id).pending + (d.detach id).dropped = d.pending + d.dropped := by
  simp only [detach]
  split
  case h_1 => rfl
  case h_2 j hj =>
    have ⟨hl, _⟩ := List.findIdx?_eq_some_iff_getElem.1 hj
    have hg := List.getElem?_eq_getElem hl
    have hp := ((swapRemove_perm hg).map (·.frames.length)).sum_eq
    rw [List.map_cons, List.sum_cons] at hp
    split <;> simp only [pending_eq, hg, Option.map_some, Option.getD_some] <;> omega

theorem pending_pushTo (slot : Nat) (frame : Bytes) (n : Nat) :
    (d.pushTo slot frame n).pending + (d.pushTo slot frame n).dropped =
      d.pending + d.dropped + n := by
  by_cases hr : d.rings = []
  case pos =>
    rw [pushTo_of_nil hr]
    exact (Nat.add_assoc ..).symm
  case neg =>
    have hl := Nat.mod_lt slot (List.length_pos_iff.2 hr)
    have hs : d.rings = d.rings.take (slot % d.rings.length) ++
        d.rings[slot % d.rings.length] :: d.rings.drop (slot % d.rings.length + 1) := by simp
    rw [pushTo_of_ne_nil hr, pending_eq, pending_eq, List.modify_eq_take_cons_drop hl]
    conv => rhs; rw [hs]
    simp only [List.map_append, List.map_cons, List.sum_append, List.sum_cons, List.length_append,
      List.length_replicate]
    omega

-- Frames that are read are waiting before.
theorem pending_consume (hn : d.attached.Nodup) (hk : k ≤ (d.framesOf id).length) :
    (d.consume id k).pending + k = d.pending := by
  by_cases hm : id ∈ d.attached
  case neg =>
    rw [framesOf_of_not_mem hm] at hk
    rw [Nat.le_zero.1 hk, consume_zero]
    rfl
  case pos =>
    have ⟨before, r, after, he, hq, hb, ha⟩ := exists_ring hn hm
    have hf := framesOf_of_mem hn (r := r) (by simp [he])
    rw [hq] at hf
    rw [hf] at hk
    simp only [pending_eq, consume]
    rw [he, List.map_append, List.map_cons, map_consumed_of_ne hb, map_consumed_of_ne ha]
    simp only [consumed, hq, if_true, List.map_append, List.map_cons, List.sum_append,
      List.sum_cons, List.length_drop]
    omega

end Pending

end MemoryTap

end TapPort
