import TapPort.Proofs.Device.Sending
import TapPort.Proofs.Host.Basic

namespace TapPort

-- What may be said of the frames that are written when the first packets of some are sent: they are
-- those of the packets that are sent, and maybe empty ones if an empty packet comes next.
structure Sent (bs : List Buffer) (k : Nat) (frames : List Bytes) : Prop where
  le : k ≤ bs.length
  full : ∀ b ∈ bs.take k, b.data ≠ []
  inOrder : frames.filter (· ≠ []) = (bs.take k).map Buffer.data
  stray : [] ∈ frames → ∃ b ∈ bs[k]?, b.data = []

namespace Sent

variable {bs : List Buffer} {k j : Nat} {frames frames' : List Bytes}

theorem nil (bs : List Buffer) : Sent bs 0 [] where
  le := Nat.zero_le _
  full := nofun
  inOrder := rfl
  stray := nofun

theorem append (s : Sent bs k frames) (s' : Sent (bs.drop k) j frames') :
    Sent bs (k + j) (frames ++ frames') where
  le := by
    have hj := s'.le
    rw [List.length_drop] at hj
    have hk := s.le
    omega
  full := by
    rw [List.take_add]
    exact List.forall_mem_append.2 ⟨s.full, s'.full⟩
  inOrder := by
    rw [List.filter_append, s.inOrder, s'.inOrder, List.take_add, List.map_append]
  stray h := by
    cases List.mem_append.1 h
    case inr h =>
      have ⟨b, hb, he⟩ := s'.stray h
      exact ⟨b, List.getElem?_drop ▸ hb, he⟩
    case inl h =>
      have ⟨b, hb, he⟩ := s.stray h
      -- An empty packet that comes next is never sent.
      have hj : j = 0 := by
        by_contra hj
        have hm : b ∈ (bs.drop k).take j := by
          refine List.mem_of_getElem? (i := 0) ?_
          rw [List.getElem?_take_of_lt (Nat.pos_of_ne_zero hj), List.getElem?_drop]
          exact hb
        exact s'.full b hm he
      exact ⟨b, hj ▸ hb, he⟩

-- When nothing is left, each packet was written once, in order.
theorem all (s : Sent bs k frames) (h : bs.drop k = []) : frames = bs.map Buffer.data := by
  have hk := List.drop_eq_nil_iff.1 h
  have hf : ∀ frame ∈ frames, decide (frame ≠ []) = true := by
    intro frame hm
    refine decide_eq_true fun he => ?_
    have ⟨b, hb, _⟩ := s.stray (he ▸ hm)
    rw [List.getElem?_eq_none hk] at hb
    cases hb
  rw [← List.filter_eq_self.2 hf, s.inOrder, List.take_of_length_le hk]

theorem ofSends {p : Port Nat} {q : Nat} {d d' : MemoryTap} (s : d.Sends (p.reached q bs) k d') :
    Sent bs k (((p.reached q bs).take k).map Buffer.data ++
      if d.strays (p.reached q bs) k then [[]] else []) := by
  have hf := s.full
  rw [Port.take_reached s.le] at hf ⊢
  refine ⟨Nat.le_trans s.le Port.reached_prefix.length_le, hf, ?_, ?_⟩
  case refine_1 =>
    have hm : ((bs.take k).map Buffer.data).filter (· ≠ []) = (bs.take k).map Buffer.data := by
      rw [List.filter_eq_self, List.forall_mem_map]
      exact fun b hb => decide_eq_true (hf b hb)
    rw [List.filter_append, hm]
    split <;> simp
  case refine_2 =>
    intro h
    cases List.mem_append.1 h
    case inl h =>
      obtain ⟨b, hb, he⟩ := List.mem_map.1 h
      exact (hf b hb he).elim
    case inr h =>
      split at h
      case isFalse => cases h
      case isTrue hs =>
        rw [MemoryTap.strays, Bool.and_eq_true, Option.any_eq_true] at hs
        obtain ⟨⟨b, hb, he⟩, _⟩ := hs
        exact ⟨b, Port.getElem?_of_reached hb, List.isEmpty_iff.1 he⟩

end Sent

namespace Host

variable {h : Host MemoryTap Nat}

-- The packets that a burst of the port in a place leaves of some.
def leftover (h : Host MemoryTap Nat) (place q : Nat) (bs : List Buffer) : List Buffer :=
  match h.ports[place]? with
  | some p => (p.tx q bs h.dev h.pools).buffers
  | none => bs

namespace Transition

variable (t : Transition MemoryTap Nat MemoryTap.Control)

-- The frames that were written in a transition.
def written : List Bytes := t.target.dev.log.drop t.source.dev.log.length

-- That a burst writes the data of the packets that it takes away from the front of its list, in
-- order, and nothing else.
def Faithful : Prop :=
  ∀ place q bs ps p, t.event = .port place (.tx q bs ps) → t.source.ports[place]? = some p →
    ∃ k ≤ bs.length, (p.tx q bs t.source.dev t.source.pools).buffers = bs.drop k ∧
      t.target.dev.log = t.source.dev.log ++ (bs.take k).map Buffer.data

-- That a burst comes to an empty packet that the device takes.
def Strays : Prop :=
  ∃ place q bs ps p, t.event = .port place (.tx q bs ps) ∧ t.source.ports[place]? = some p ∧
    t.source.dev.strays (p.reached q bs) (p.tx q bs t.source.dev t.source.pools).count = true

-- That a burst takes away the packets that it reports, and has sent those to the device.
def Transmits : Prop :=
  ∀ place q bs ps p, t.event = .port place (.tx q bs ps) → t.source.ports[place]? = some p →
    let o := p.tx q bs t.source.dev t.source.pools
    o.buffers = bs.drop o.count ∧ bs.take o.count = (p.reached q bs).take o.count ∧
      t.source.dev.Sends (p.reached q bs) o.count t.target.dev

variable {t}

theorem transmits : t.Transmits := by
  cases t
  case mk h e =>
    intro place q bs ps p he hp o
    cases he
    have ⟨hb, s⟩ := p.sends_tx q bs h.dev h.pools
    rw [target_port hp]
    exact ⟨hb, (Port.take_reached s.le).symm, s⟩

theorem faithful_iff : t.Faithful ↔ ¬t.Strays := by
  constructor
  case mp =>
    intro hf hs
    have ⟨place, q, bs, ps, p, he, hp, hs⟩ := hs
    have ⟨k, hk, hb, hl⟩ := hf place q bs ps p he hp
    have ⟨hb', ht, s⟩ := transmits place q bs ps p he hp
    have hc : k = (p.tx q bs t.source.dev t.source.pools).count := by
      have hd := congrArg List.length (hb.symm.trans hb')
      have hn := Nat.le_trans s.le Port.reached_prefix.length_le
      rw [List.length_drop, List.length_drop] at hd
      omega
    have hl' := s.log
    rw [hl, hc, ht, hs, List.append_cancel_left_eq, List.self_eq_append_right] at hl'
    cases hl'
  case mpr =>
    intro hs place q bs ps p he hp
    have ⟨hb, ht, s⟩ := transmits place q bs ps p he hp
    refine ⟨_, Nat.le_trans s.le Port.reached_prefix.length_le, hb, ?_⟩
    rw [s.log, ht, if_neg, List.append_nil]
    exact fun h => hs ⟨place, q, bs, ps, p, he, hp, h⟩

theorem written_of_log {frames : List Bytes}
    (h : t.target.dev.log = t.source.dev.log ++ frames) : t.written = frames := by
  rw [written, h, List.drop_left]

end Transition

-- An attempt to send packets through a queue of the port in a place, and what happens before it.
structure Attempt where
  before : List (Event MemoryTap.Control)
  place : Nat
  queue : Nat

-- A host, and the packets that somebody there has still to send.
structure Sender where
  host : Host MemoryTap Nat
  left : List Buffer

namespace Sender

def call (s : Sender) (a : Attempt) : Transition MemoryTap Nat MemoryTap.Control :=
  ⟨s.host.run a.before, .port a.place (.tx a.queue s.left [])⟩

def attempt (s : Sender) (a : Attempt) : Sender :=
  ⟨(s.call a).target, (s.call a).source.leftover a.place a.queue s.left⟩

def after (s : Sender) (as : List Attempt) : Sender := as.foldl attempt s

-- The frames that attempts write, each of them with the packets that the one before left.
def written : Sender → List Attempt → List Bytes
  | _, [] => []
  | s, a :: as => (s.call a).written ++ written (s.attempt a) as

theorem sent_attempt (s : Sender) (a : Attempt) :
    ∃ k, (s.attempt a).left = s.left.drop k ∧ Sent s.left k (s.call a).written := by
  cases hp : (s.call a).source.ports[a.place]?
  case none =>
    have hl : (s.call a).target.dev.log = (s.call a).source.dev.log ++ [] := by
      have ht : (s.call a).target = (s.call a).source := by
        simp only [call] at hp
        simp [Transition.target, call, step, hp]
      rw [ht, List.append_nil]
    refine ⟨0, ?_, ?_⟩
    case refine_1 => simp [attempt, leftover, hp]
    case refine_2 => exact Transition.written_of_log hl ▸ Sent.nil s.left
  case some p =>
    obtain ⟨hb, _, hs⟩ := Transition.transmits a.place a.queue s.left [] p rfl hp
    refine ⟨_, ?_, Transition.written_of_log hs.log ▸ Sent.ofSends hs⟩
    simp only [attempt, leftover, hp]
    exact hb

-- Attempts go on where the one before stopped.
theorem sent_after (s : Sender) (as : List Attempt) :
    ∃ k, (s.after as).left = s.left.drop k ∧ Sent s.left k (s.written as) := by
  induction as generalizing s
  case nil => exact ⟨0, rfl, .nil s.left⟩
  case cons a as ih =>
    have ⟨k, hk, hs⟩ := s.sent_attempt a
    have ⟨j, hj, hs'⟩ := ih (s.attempt a)
    rw [hk] at hj hs'
    exact ⟨k + j, by rw [after, List.foldl_cons, ← after, hj, List.drop_drop], hs.append hs'⟩

end Sender

-- A burst writes the data of the packets that it takes away from the front of its list, in order,
-- and besides that an empty frame just if an empty packet comes next and the device takes it. So
-- packets that are given to bursts again until none is left were each written once, in order.
theorem transmitted_of_run (h : Host MemoryTap Nat) (events : List (Event MemoryTap.Control)) :
    (∀ t ∈ h.trace events, t.Transmits ∧ (t.Faithful ↔ ¬t.Strays)) ∧
      ∀ bs attempts, let s : Sender := ⟨h.run events, bs⟩
        ∃ k, (s.after attempts).left = bs.drop k ∧ Sent bs k (s.written attempts) ∧
          ((s.after attempts).left = [] → s.written attempts = bs.map Buffer.data) := by
  constructor
  case left => exact fun _ _ => ⟨Transition.transmits, Transition.faithful_iff⟩
  case right =>
    intro bs attempts s
    have ⟨k, hk, hs⟩ := s.sent_after attempts
    exact ⟨k, hk, hs, fun h => hs.all (hk.symm.trans h)⟩

-- One port with one queue, and a pool of two buffers.
def soleEvents : List (Event MemoryTap.Control) :=
  [.addPool "m" 2 2048, .make "a" "dtap0" 0 ⟨none, Link.defaultSpeed, 1, 0⟩]

-- Of three packets two are sent and one is left, for a while because the device is not writable.
theorem transmitted_of_run_again :
    let packets : List Buffer := [⟨[7, 8], 0, 2, 0, 0⟩, ⟨[9], 0, 1, 0, 0⟩, ⟨[10, 11], 0, 2, 0, 1⟩]
    let attempts : List Attempt :=
      [⟨[.control (.budget (some 2))], 0, 0⟩,
        ⟨[.control (.budget none), .control (.writable false)], 0, 0⟩,
        ⟨[.control (.writable true)], 0, 0⟩]
    let s : Sender := ⟨(ofDevice MemoryTap.default).run soleEvents, packets⟩
    (s.after attempts).left = [] ∧ s.written attempts = [[7, 8], [9], [10, 11]] := by
  intro packets attempts s
  have hl : (s.after attempts).left = [] := by decide +kernel
  have ⟨_, _, _, hw⟩ := (transmitted_of_run (ofDevice .default) soleEvents).2 packets attempts
  exact ⟨hl, hw hl⟩

-- A burst that is given a buffer as it comes from its pool keeps that, but writes a frame.
theorem not_faithful_of_empty :
    ¬∀ events, ∀ t ∈ (ofDevice MemoryTap.default : Host MemoryTap Nat).trace events,
      t.Faithful := by
  intro h
  let b := Buffer.ofStorage 0 (Bytes.zeros 2048)
  let before : List (Event MemoryTap.Control) := soleEvents ++ [.take 0]
  let source : Host MemoryTap Nat := (ofDevice MemoryTap.default).run before
  let t : Transition MemoryTap Nat MemoryTap.Control := ⟨source, .port 0 (.tx 0 [b] [])⟩
  have hs : t.Strays := ⟨0, 0, [b], [], .sole, rfl, rfl, by decide +kernel⟩
  have hm : t ∈ (ofDevice MemoryTap.default : Host MemoryTap Nat).trace (before ++ [t.event]) := by
    have hl : ((ofDevice MemoryTap.default : Host MemoryTap Nat).trace before).length =
        before.length := by decide +kernel
    have hh : ¬Device.halted (source.step t.event).dev = true := by decide +kernel
    rw [trace_append hl, trace, if_neg hh]
    exact List.mem_append_right _ List.mem_cons_self
  exact Transition.faithful_iff.1 (h _ t hm) hs

end Host

end TapPort
