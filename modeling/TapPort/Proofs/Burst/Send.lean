import TapPort.Device.Scripted
import TapPort.Proofs.Pool.Circulation
import TapPort.Proofs.Port.Counting
import TapPort.Proofs.Streak

namespace TapPort

namespace Pools

variable {ps ps' : Pools} {live given got : List Buffer} {id : PoolId}

theorem drawn_append (id : PoolId) (as bs : List Buffer) :
    drawn id (as ++ bs) = drawn id as + drawn id bs := List.countP_append

theorem Balanced.drawn_eq_zero (h : Balanced ps live) (hp : ps[id]? = none) :
    drawn id live = 0 := by
  apply List.countP_eq_zero.2
  intro b hb hi
  have hf := h.fits b hb
  rw [of_decide_eq_true hi, hp] at hf
  cases hf

-- What a pool gains are the buffers that were given up for it.
theorem Trades.available (h : Trades ps given ps' got) {rest : List Buffer}
    (hb : Balanced ps (given ++ rest)) (id : PoolId) :
    ps'.available id + drawn id got = ps.available id + drawn id given := by
  have hb' := h.balanced rest hb
  have hs : ps'[id]?.map Pool.refilled = ps[id]?.map Pool.refilled := by
    rw [← List.getElem?_map, h.same, List.getElem?_map]
  have hd := drawn_append id given rest
  have hd' := drawn_append id got rest
  unfold Pools.available
  cases hp : ps[id]?
  case none =>
    rw [hp, Option.map_none, Option.map_eq_none_iff] at hs
    have := hb.drawn_eq_zero hp
    have := hb'.drawn_eq_zero hs
    rw [hs]
    omega
  case some p =>
    rw [hp, Option.map_some] at hs
    have ⟨p', hp', hr⟩ := Option.map_eq_some_iff.1 hs
    have hc : p'.refilled.capacity = p.refilled.capacity := congrArg Pool.capacity hr
    change p'.capacity = p.capacity at hc
    have := hb.settled id p hp
    have := hb'.settled id p' hp'
    simp only [hp', Option.map_some, Option.getD_some]
    omega

end Pools

namespace Burst

-- A packet whose turn has come, what the device said when it was asked, and what it said to the
-- write, if there was one.
structure Attempt where
  packet : Buffer
  poll : Except IoError Bool
  write : Option (Except IoError Nat)

def Attempt.sends (a : Attempt) : Bool :=
  match a.poll, a.write with
  | .ok true, some (.ok (_ + 1)) => true
  | _, _ => false

variable {κ δ : Type} [Device δ κ]

-- Attempts one after another, which take the device from one state to another. Only a device that
-- is ready is written to.
inductive Attempts (handle : κ) : List Attempt → δ → δ → Prop
  | nil {dev} : Attempts handle [] dev dev
  | held {packet poll as dev dev₁ dev'} :
    Device.pollWritable handle dev = (poll, dev₁) →
    poll ≠ .ok true →
    Attempts handle as dev₁ dev' →
    Attempts handle (⟨packet, poll, none⟩ :: as) dev dev'
  | written {packet write as dev dev₁ dev₂ dev'} :
    Device.pollWritable handle dev = (.ok true, dev₁) →
    Device.write handle packet.data dev₁ = (write, dev₂) →
    Attempts handle as dev₂ dev' →
    Attempts handle (⟨packet, .ok true, some write⟩ :: as) dev dev'

section Send

variable {handle : κ} {b : Buffer} {bs : List Buffer} {dev₁ dev₂ : δ} {s : Sending δ}

theorem send_held {poll : Except IoError Bool}
    (hp : Device.pollWritable handle s.dev = (poll, dev₁)) (hr : poll ≠ .ok true) :
    send handle (b :: bs) s = { s with dev := dev₁ } := by
  rw [send, hp]
  cases poll
  case error => rfl
  case ok ready =>
    cases ready
    case false => rfl
    case true => exact (hr rfl).elim

theorem send_written {write : Except IoError Nat}
    (hp : Device.pollWritable handle s.dev = (.ok true, dev₁))
    (hw : Device.write handle b.data dev₁ = (write, dev₂)) :
    send handle (b :: bs) s =
      if Attempt.sends ⟨b, .ok true, some write⟩ then
        send handle bs ⟨s.count + 1, s.bytes + b.length, dev₂⟩
      else { s with dev := dev₂ } := by
  cases write
  case error => simp only [send, hp, hw]; rfl
  case ok n =>
    cases n
    case zero => simp only [send, hp, hw]; rfl
    case succ => simp only [send, hp, hw]; rfl

-- A burst tries the packets in order, up to the first that is not taken.
theorem send_attempts (handle : κ) (bs : List Buffer) (s : Sending δ) :
    ∃ attempts dev', Attempts handle attempts s.dev dev' ∧
      Streak Attempt.sends bs.length attempts ∧
      attempts.map Attempt.packet = bs.take attempts.length ∧
      send handle bs s = ⟨s.count + attempts.countP Attempt.sends,
        s.bytes + Buffer.totalLength (bs.take (attempts.countP Attempt.sends)), dev'⟩ := by
  induction bs generalizing s
  case nil => exact ⟨[], s.dev, .nil, .full, rfl, rfl⟩
  case cons b bs ih =>
    cases hp : Device.pollWritable handle s.dev
    case mk poll dev₁ =>
      by_cases hr : poll = .ok true
      case neg =>
        have ha : Attempt.sends ⟨b, poll, none⟩ = false := by simp [Attempt.sends]
        refine ⟨[⟨b, poll, none⟩], dev₁, .held hp hr .nil, .failed ha, rfl, ?_⟩
        rw [send_held hp hr, List.countP_singleton, ha]
        rfl
      case pos =>
        subst hr
        cases hw : Device.write handle b.data dev₁
        case mk write dev₂ =>
          rw [send_written hp hw]
          cases ha : Attempt.sends ⟨b, .ok true, some write⟩
          case false =>
            refine ⟨[_], dev₂, .written hp hw .nil, .failed ha, rfl, ?_⟩
            rw [List.countP_singleton, ha]
            rfl
          case true =>
            have ⟨as, dev', hc, hk, hm, he⟩ := ih ⟨s.count + 1, s.bytes + b.length, dev₂⟩
            refine ⟨_ :: as, dev', .written hp hw hc, .next ha hk, congrArg (b :: ·) hm, ?_⟩
            rw [if_pos rfl, he, List.countP_cons_of_pos ha, List.take_succ_cons,
              Buffer.totalLength_cons, Nat.add_assoc, Nat.add_assoc, Nat.add_comm 1]

end Send

-- What a burst does with the device, on a queue that is open.
structure Transmission (handle : κ) (bs : List Buffer) (dev : δ) (o : Outcome κ δ)
    (attempts : List Attempt) : Prop where
  course : Attempts handle attempts dev o.dev
  packets : attempts.map Attempt.packet = bs.take attempts.length
  -- It is over when all packets within its reach have had their turn and when one was not taken,
  -- and not before.
  ends : ∀ k ≤ attempts.length, k = attempts.length ↔
    k = min limit bs.length ∨ Streak.Broken Attempt.sends (attempts.take k)
  sends_iff : ∀ i a, attempts[i]? = some a → (a.sends = true ↔ i < o.count)

-- What a burst does with the packets that it sends, which are the first of the caller's.
structure Settlement (q : QueuePair κ) (bs : List Buffer) (pools : Pools) (o : Outcome κ δ) :
    Prop where
  count_le : o.count ≤ min limit bs.length
  -- The count is a number of 16 bits.
  count_eq : (UInt16.ofNat o.count).toNat = o.count
  buffers : o.buffers = bs.drop o.count
  released : o.pools = Buffer.releaseAll (bs.take o.count) pools
  available : ∀ rest, pools.Balanced (bs ++ rest) → ∀ id,
    o.pools.available id = pools.available id + Pools.drawn id (bs.take o.count)
  queue : o.queue = q.counted { q.counters with
    opackets := q.counters.opackets + UInt64.ofNat o.count
    obytes := q.counters.obytes + UInt64.ofNat (Buffer.totalLength (bs.take o.count))
    errors := q.counters.errors + UInt64.ofNat (min limit bs.length - o.count) }

-- What is sent of some packets. Without a descriptor it is none of them.
def sendVia (handle? : Option κ) (bs : List Buffer) (dev : δ) : Sending δ :=
  match handle? with
  | some handle => send handle bs ⟨0, 0, dev⟩
  | none => ⟨0, 0, dev⟩

section Tx

variable (q : QueuePair κ) (bs : List Buffer) (dev : δ) (pools : Pools)

theorem tx_eq :
    tx q bs dev pools =
      let s := sendVia q.slot.get? (bs.take limit) dev
      ⟨s.count,
        q.counted (q.counters.transmitted s.count s.bytes ((bs.take limit).length - s.count)),
        bs.drop s.count, s.dev, Buffer.releaseAll (bs.take s.count) pools⟩ := by
  cases bs
  case nil =>
    have hs : sendVia q.slot.get? [] dev = ⟨0, 0, dev⟩ := by
      cases q.slot.get? <;> rfl
    simp [tx, hs, QueuePair.counted, QueueCounters.transmitted, Buffer.releaseAll]
  case cons => rfl

theorem sendVia_prefix (handle? : Option κ) :
    (sendVia handle? bs dev).count ≤ bs.length ∧
      (sendVia handle? bs dev).bytes =
        Buffer.totalLength (bs.take (sendVia handle? bs dev).count) := by
  cases handle?
  case none => exact ⟨Nat.zero_le _, rfl⟩
  case some handle =>
    have ⟨k, hk, hc, hb⟩ := send_prefix handle bs ⟨0, 0, dev⟩
    rw [Nat.zero_add] at hc hb
    exact ⟨hc.trans_le hk, hc ▸ hb⟩

theorem settlement : Settlement q bs pools (tx q bs dev pools) := by
  have ⟨hc, hb⟩ := sendVia_prefix (bs.take limit) dev q.slot.get?
  rw [tx_eq]
  generalize sendVia q.slot.get? (bs.take limit) dev = s at hc hb
  rw [List.length_take] at hc
  have hl : s.count ≤ limit := Nat.le_trans hc (Nat.min_le_left ..)
  rw [List.take_take, Nat.min_eq_left hl] at hb
  constructor
  case count_le => exact hc
  case count_eq => exact UInt16.toNat_ofNat_of_lt' (Nat.lt_succ_of_le hl)
  case buffers => rfl
  case released => rfl
  case available =>
    intro rest hr id
    have ha := (Pools.Trades.releaseTake s.count bs pools).available hr id
    have hd := Pools.drawn_append id (bs.take s.count) (bs.drop s.count)
    rw [List.take_append_drop] at hd
    dsimp only
    omega
  case queue =>
    dsimp only
    rw [hb, List.length_take]
    rfl

theorem transmission {handle : κ} (hh : q.slot.get? = some handle) :
    ∃ attempts, Transmission handle bs dev (tx q bs dev pools) attempts := by
  have ⟨attempts, dev', hc, hk, hm, he⟩ := send_attempts handle (bs.take limit) ⟨0, 0, dev⟩
  have hl : (bs.take limit).length = min limit bs.length := List.length_take
  rw [hl] at hk
  refine ⟨attempts, ?_⟩
  rw [tx_eq, hh, sendVia, he]
  simp only [Nat.zero_add]
  constructor
  case course => exact hc
  case packets =>
    rw [hm, List.take_take, Nat.min_eq_left (Nat.le_trans hk.length_le (Nat.min_le_left ..))]
  case ends => exact fun _ => hk.stops
  case sends_iff => exact fun _ _ => hk.works_iff

-- Whatever the device says, a burst sends the first packets of the caller's, as many as come before
-- one that is not taken, each of them polled for and written once and in order. These go back to
-- their pools and are counted; the others stay, and are counted as far as the burst reaches.
theorem transmission_of_tx :
    Settlement q bs pools (tx q bs dev pools) ∧
      (∀ handle, q.slot.get? = some handle →
        ∃ attempts, Transmission handle bs dev (tx q bs dev pools) attempts) ∧
      (q.slot.get? = none → (tx q bs dev pools).count = 0 ∧ (tx q bs dev pools).dev = dev) ∧
      (bs = [] → tx q bs dev pools = ⟨0, q, [], dev, pools⟩) := by
  refine ⟨settlement q bs dev pools, fun _ => transmission q bs dev pools, ?_, ?_⟩
  case refine_1 =>
    intro hh
    rw [tx_eq, hh]
    exact ⟨rfl, rfl⟩
  case refine_2 =>
    intro hb
    subst hb
    rfl

end Tx

-- Of three packets from two pools the second is written but not taken, and the third is not tried.
theorem transmission_of_tx_second_refused :
    let polls := [none, none, some (.ok false)]
    let writes := [none, some (.ok 0), none]
    let dev := ScriptedTap.ofScript { Script.empty with polls, writes }
    let bs : List Buffer := [⟨[7, 8], 0, 2, 0, 0⟩, ⟨[9], 0, 1, 0, 1⟩, ⟨[5, 6], 0, 2, 0, 0⟩]
    let pools : Pools := [⟨"m", 2, 2, #[]⟩, ⟨"n", 1, 1, #[]⟩]
    let q : QueuePair Nat := ⟨0, .opened 1, none, 0, .zero⟩
    let o := tx q bs dev pools
    o.count = 1 ∧ o.buffers = bs.drop 1 ∧ o.queue.counters = ⟨0, 1, 0, 2, 2⟩ ∧
      o.dev.log = [.write 1 [9], .poll 1, .write 1 [7, 8], .poll 1] ∧
      o.pools.map Pool.available = [1, 0] ∧ Settlement q bs pools o ∧
      ∃ attempts, Transmission 1 bs dev o attempts := by
  intro polls writes dev bs pools q o
  have ht := transmission_of_tx q bs dev pools
  exact ⟨by decide +kernel, by decide +kernel, by decide +kernel, by decide +kernel,
    by decide +kernel, ht.1, ht.2.1 1 rfl⟩

end Burst

end TapPort
