import TapPort.Proofs.Device.Memory
import TapPort.Proofs.Port.Bursts

namespace TapPort

namespace MemoryTap

-- The frames written, the first one first.
def log (d : MemoryTap) : List Bytes := d.sent.reverse

-- That the device takes a frame when so many more were written.
def takes (d : MemoryTap) (n : Nat) : Bool := d.writable && !d.failWrite && d.budget.all (n < ·)

def wrote (d : MemoryTap) (frame : Bytes) : MemoryTap :=
  { d with budget := d.budget.map (· - 1), sent := frame :: d.sent }

-- That a packet without data comes after the first so many, and is written all the same.
def strays (d : MemoryTap) (bs : List Buffer) (k : Nat) : Bool :=
  bs[k]?.any (·.data.isEmpty) && d.takes k

-- What becomes of a device when the first packets of some are sent to it.
structure Sends (d : MemoryTap) (bs : List Buffer) (k : Nat) (d' : MemoryTap) : Prop where
  le : k ≤ bs.length
  taken : ∀ n < k, d.takes n = true
  full : ∀ b ∈ bs.take k, b.data ≠ []
  log : d'.log = d.log ++ ((bs.take k).map Buffer.data ++ if d.strays bs k then [[]] else [])
  stops : ∀ b ∈ bs[k]?, d.takes k = true → b.data = []

variable {d d' : MemoryTap} {b : Buffer} {bs : List Buffer} {id k n bytes : Nat}

section Write

variable {frame : Bytes}

theorem log_wrote (frame : Bytes) : (d.wrote frame).log = d.log ++ [frame] := List.reverse_cons

theorem takes_wrote (frame : Bytes) (n : Nat) : (d.wrote frame).takes n = d.takes (n + 1) := by
  have hb (m : Nat) : decide (n < m - 1) = decide (n + 1 < m) := decide_eq_decide.2 (by omega)
  simp only [takes, wrote, Option.all_map, hb]

theorem write_of_takes (h : d.takes 0 = true) :
    d.write frame = (.ok frame.length, d.wrote frame) := by
  simp only [takes, Bool.and_eq_true, Bool.not_eq_true'] at h
  rw [write, if_neg (Bool.eq_false_iff.1 h.1.2), wrote]
  cases hb : d.budget
  case none => rfl
  case some m =>
    cases m
    case zero => simp [hb] at h
    case succ => rfl

theorem writable_of_takes (h : d.takes 0 = true) : (d.writable && d.budget != some 0) = true := by
  simp only [takes, Bool.and_eq_true] at h
  rw [h.1.1, Bool.true_and, bne_iff_ne]
  intro hb
  simp [hb] at h

-- A device that takes nothing is left as it is.
theorem write_of_not_takes (frame : Bytes) (h : d.takes 0 = false)
    (hp : (d.writable && d.budget != some 0) = true) : ∃ e, d.write frame = (.error e, d) := by
  simp only [Bool.and_eq_true, bne_iff_ne] at hp
  have hb : d.budget.all (0 < ·) = true := by
    rw [Option.all_eq_true]
    intro m hm
    exact decide_eq_true (Nat.pos_of_ne_zero fun hz => hp.2 (hz ▸ hm))
  rw [takes, hp.1, hb, Bool.true_and, Bool.and_true, Bool.not_eq_false'] at h
  exact ⟨_, if_pos h⟩

end Write

section Send

theorem send_stopped (h : d.takes 0 = false) :
    Burst.send id (b :: bs) ⟨n, bytes, d⟩ = ⟨n, bytes, d⟩ := by
  cases hp : d.writable && d.budget != some 0
  case false => simp [Burst.send, Device.pollWritable, hp]
  case true =>
    obtain ⟨e, he⟩ := write_of_not_takes b.data h hp
    simp [Burst.send, Device.pollWritable, Device.write, hp, he]

theorem send_empty (h : d.takes 0 = true) (hb : b.data = []) :
    Burst.send id (b :: bs) ⟨n, bytes, d⟩ = ⟨n, bytes, d.wrote []⟩ := by
  simp [Burst.send, Device.pollWritable, Device.write, writable_of_takes h, write_of_takes h, hb]

theorem send_taken (h : d.takes 0 = true) (hb : b.data ≠ []) :
    Burst.send id (b :: bs) ⟨n, bytes, d⟩ =
      Burst.send id bs ⟨n + 1, bytes + b.length, d.wrote b.data⟩ := by
  have ⟨c, cs, hc⟩ := List.exists_cons_of_ne_nil hb
  simp [Burst.send, Device.pollWritable, Device.write, writable_of_takes h, write_of_takes h, hc]

end Send

namespace Sends

theorem none (h : ∀ b ∈ bs[0]?, d.takes 0 = false) : d.Sends bs 0 d where
  le := Nat.zero_le _
  taken := nofun
  full := nofun
  log := by
    cases hb : bs[0]?
    case none => simp [strays, hb]
    case some b => simp [strays, h b hb]
  stops b hb ht := by
    rw [h b hb] at ht
    cases ht

theorem empty (h : d.takes 0 = true) (hb : b.data = []) : d.Sends (b :: bs) 0 (d.wrote []) where
  le := Nat.zero_le _
  taken := nofun
  full := nofun
  log := by simp [strays, h, hb, log_wrote]
  stops b' hb' _ := by
    cases hb'
    exact hb

theorem cons (h : d.takes 0 = true) (hb : b.data ≠ []) (s : (d.wrote b.data).Sends bs k d') :
    d.Sends (b :: bs) (k + 1) d' where
  le := Nat.succ_le_succ s.le
  taken n hn := by
    cases n
    case zero => exact h
    case succ n => exact takes_wrote b.data n ▸ s.taken n (Nat.lt_of_succ_lt_succ hn)
  full := List.forall_mem_cons.2 ⟨hb, s.full⟩
  log := by
    rw [s.log, log_wrote, strays, takes_wrote]
    simp [strays]
  stops b' hb' ht := s.stops b' hb' (takes_wrote b.data k ▸ ht)

end Sends

-- A burst sends packets from the front on until the device takes no more, or one is empty.
theorem sends_send (id : Nat) (bs : List Buffer) (n bytes : Nat) (d : MemoryTap) :
    ∃ k, (Burst.send id bs ⟨n, bytes, d⟩).count = n + k ∧
      d.Sends bs k (Burst.send id bs ⟨n, bytes, d⟩).dev := by
  induction bs generalizing n bytes d
  case nil => exact ⟨0, rfl, .none nofun⟩
  case cons b bs ih =>
    cases ht : d.takes 0
    case false =>
      rw [send_stopped ht]
      exact ⟨0, rfl, .none fun _ _ => ht⟩
    case true =>
      by_cases hb : b.data = []
      case pos =>
        rw [send_empty ht hb]
        exact ⟨0, rfl, .empty ht hb⟩
      case neg =>
        rw [send_taken ht hb]
        have ⟨k, hk, s⟩ := ih (n + 1) (bytes + b.length) (d.wrote b.data)
        exact ⟨k + 1, by rw [hk, Nat.add_assoc, Nat.add_comm 1], s.cons ht hb⟩

end MemoryTap

namespace Port

variable (p : Port Nat) (q : Nat) (bs : List Buffer) (d : MemoryTap) (pools : Pools)

-- The packets that a burst on a queue gets to, if it is open.
def reached : List Buffer := if (p.handle? q).isSome then bs.take Burst.limit else []

variable {p q bs}

theorem reached_prefix : p.reached q bs <+: bs := by
  simp only [reached]
  split
  case isTrue => exact List.take_prefix ..
  case isFalse => exact List.nil_prefix

theorem take_reached {k : Nat} (h : k ≤ (p.reached q bs).length) :
    (p.reached q bs).take k = bs.take k := by
  have ⟨rest, he⟩ : p.reached q bs <+: bs := reached_prefix
  calc
    (p.reached q bs).take k = (p.reached q bs ++ rest).take k :=
      (List.take_append_of_le_length h).symm
    _ = bs.take k := by rw [he]

theorem getElem?_of_reached {k : Nat} {b : Buffer} (h : (p.reached q bs)[k]? = some b) :
    bs[k]? = some b := by
  have ⟨rest, he⟩ : p.reached q bs <+: bs := reached_prefix
  rw [← he, List.getElem?_append_left (List.getElem?_eq_some_iff.1 h).1]
  exact h

variable (p q bs)

theorem sends_tx :
    let o := p.tx q bs d pools
    o.buffers = bs.drop o.count ∧ d.Sends (p.reached q bs) o.count o.dev := by
  have k := p.tx_course q bs d pools
  generalize p.tx q bs d pools = o at k
  cases k
  case idle h =>
    refine ⟨rfl, .none ?_⟩
    cases h
    case inl h => simp [reached, handle?, List.getElem?_eq_none h]
    case inr h => simp [reached, h]
  case unopened hq hs => exact ⟨rfl, .none (by simp [reached, handle?, hq, hs])⟩
  case sent pair h s hq hs he =>
    refine ⟨rfl, ?_⟩
    obtain ⟨k, hk, hd⟩ := MemoryTap.sends_send h (bs.take Burst.limit) 0 0 d
    rw [he, Nat.zero_add] at hk
    rw [he, ← hk] at hd
    simpa [reached, handle?, hq, hs] using hd

end Port

end TapPort
