import TapPort.Proofs.Independence
import TapPort.Proofs.Port.Slots

namespace TapPort

variable {β σ κ δ : Type}

section Pools

theorem dropLast_of_last? {p : Pool} (h : p.last? = none) : p.dropLast = p := by
  have hf : p.free = #[] := by simpa [Pool.last?] using h
  cases p
  cases hf
  rfl

theorem alloc_eq (pool : PoolId) : Buffer.alloc pool =
    atPlace pool (fun p => (p.bind Pool.last?).map (Buffer.ofStorage pool)) Pool.dropLast := by
  funext ps
  simp only [Buffer.alloc, Pools.take, atPlace]
  split
  case h_1 he => simp [he]
  case h_2 he =>
    simp only [he, Option.map_none, Prod.mk.injEq, true_and]
    apply List.ext_getElem?
    intro n
    simp only [List.getElem?_modify]
    split
    case isFalse => simp
    case isTrue hn =>
      -- Without a storage there is none to take away.
      subst hn
      cases hp : ps[pool]? <;> simp [hp] at he ⊢
      exact (dropLast_of_last? he).symm

-- A buffer goes back to its pool.
def giveBack (b : Buffer) : Pools → Unit × Pools := fun ps => ((), b.release ps)

def giveAllBack (bs : List Buffer) : Pools → Unit × Pools :=
  fun ps => ((), Buffer.releaseAll bs ps)

theorem independent_giveAllBack {g : σ × Pools → β × (σ × Pools)} {bs : List Buffer}
    (hb : ∀ b ∈ bs, ∀ s, Independent (onRight (giveBack b)) g s) (s : σ × Pools) :
    Independent (onRight (giveAllBack bs)) g s := by
  induction bs generalizing s
  case nil => exact .idle () g s
  case cons b bs ih =>
    have hc : onRight (σ := σ) (giveAllBack (b :: bs)) =
      chain (onRight (giveBack b)) fun _ => onRight (giveAllBack bs) := rfl
    rw [hc]
    apply (hb b List.mem_cons_self s).chain
    exact ih (fun b hm => hb b (List.mem_cons_of_mem _ hm)) _

theorem giveBack_eq (b : Buffer) :
    giveBack b = atPlace b.pool (fun _ => ()) (·.put b.storage) := rfl

theorem pool_of_alloc {pool : PoolId} {ps : Pools} {b : Buffer}
    (h : (Buffer.alloc pool ps).1 = some b) : b.pool = pool := by
  have ⟨_, _, hb⟩ := Option.map_eq_some_iff.1 h
  exact hb ▸ rfl

end Pools

namespace Burst

variable [Device δ κ] {g : δ × Pools → β × (δ × Pools)}

-- The loop of a receive burst as a call: the packets so far and their octets are its answer.
def receiving (h : κ) (pool : PoolId) (id : UInt16) (n : Nat) (acc : List Buffer × Nat) :
    δ × Pools → (List Buffer × Nat) × (δ × Pools) :=
  fun s =>
    let r := receive h pool id n ⟨acc.1, acc.2, s.1, s.2⟩
    ((r.buffers, r.bytes), (r.dev, r.pools))

-- What becomes of a buffer after the read into it, and of the rest of the burst.
def takeIn (h : κ) (pool : PoolId) (id : UInt16) (n : Nat) (acc : List Buffer × Nat) (b : Buffer)
    (r : Read) : δ × Pools → (List Buffer × Nat) × (δ × Pools) :=
  match r.result with
  | .ok (len + 1) =>
    receiving h pool id n
      (((b.fillTail r.bytes).setLength (len + 1)).setPort id :: acc.1, acc.2 + (len + 1))
  | _ => chain (onRight (giveBack (b.fillTail r.bytes))) fun _ => idle acc

theorem receiving_succ (h : κ) (pool : PoolId) (id : UInt16) (n : Nat) (acc : List Buffer × Nat) :
    receiving (δ := δ) h pool id (n + 1) acc =
      chain (onRight (Buffer.alloc pool)) fun b? =>
        match b? with
        | none => idle acc
        | some b => chain (onLeft (Device.read h b.tailroom)) (takeIn h pool id n acc b) := by
  funext s
  simp only [receiving, receive, chain_apply, onRight_apply]
  split
  case h_1 he => simp [he]
  case h_2 b pools he =>
    simp only [he, chain_apply, onLeft_apply, takeIn]
    split
    case h_1 octets len dev hr => simp [hr, receiving]
    case h_2 octets r dev hn hr =>
      simp only [hr]
      rfl

-- That a call does not meet those that a receive burst is made of.
structure AsideRx (h : κ) (pool : PoolId) (g : δ × Pools → β × (δ × Pools)) : Prop where
  alloc (s) : Independent (onRight (Buffer.alloc pool)) g s
  read (n s) : Independent (onLeft (Device.read h n)) g s
  giveBack {b : Buffer} (hb : b.pool = pool) (s) : Independent (onRight (giveBack b)) g s

section Receive

variable {h : κ} {pool pool' : PoolId} {s : δ × Pools}

theorem asideRx_atPlace (hp : pool ≠ pool') (look : Option Pool → β) (change : Pool → Pool) :
    AsideRx (δ := δ) h pool (onRight (atPlace pool' look change)) where
  alloc _ := by
    rw [alloc_eq]
    exact (independent_atPlace hp ..).onRight
  read _ _ := .crossed ..
  giveBack hb _ := by
    rw [giveBack_eq, hb]
    exact (independent_atPlace hp ..).onRight

theorem asideRx_onLeft {g : δ → β × δ} (hg : ∀ n d, Independent (Device.read h n) g d) :
    AsideRx h pool (onLeft g) where
  alloc _ := (Independent.crossed ..).symm
  read _ _ := (hg ..).onLeft
  giveBack _ _ := (Independent.crossed ..).symm

theorem AsideRx.receiving (a : AsideRx h pool g) (id : UInt16) (n : Nat)
    (acc : List Buffer × Nat) : Independent (receiving h pool id n acc) g s := by
  induction n generalizing acc s
  case zero => exact .idle acc g s
  case succ n ih =>
    rw [receiving_succ]
    apply (a.alloc s).chain
    split
    case h_1 => exact .idle ..
    case h_2 b hb =>
      apply (a.read ..).chain
      simp only [takeIn]
      split
      case h_1 => exact ih _
      case h_2 =>
        have hp : b.pool = pool := pool_of_alloc hb
        exact (a.giveBack (b := b.fillTail _) hp _).map fun _ => acc

end Receive

-- The loop of a transmit burst as a call.
def sending (h : κ) (bs : List Buffer) (acc : Nat × Nat) :
    δ × Pools → (Nat × Nat) × (δ × Pools) :=
  fun s =>
    let r := send h bs ⟨acc.1, acc.2, s.1⟩
    ((r.count, r.bytes), (r.dev, s.2))

theorem sending_cons (h : κ) (b : Buffer) (bs : List Buffer) (acc : Nat × Nat) :
    sending (δ := δ) h (b :: bs) acc =
      chain (onLeft (Device.pollWritable h)) fun w =>
        match w with
        | .ok true =>
          chain (onLeft (Device.write h b.data)) fun r =>
            match r with
            | .ok (_ + 1) => sending h bs (acc.1 + 1, acc.2 + b.length)
            | _ => idle acc
        | _ => idle acc := by
  funext s
  simp only [sending, send, chain_apply, onLeft_apply]
  split
  case h_1 hw =>
    simp only [hw, chain_apply, onLeft_apply]
    split
    case h_1 hr => simp only [hr, sending]
    case h_2 hr => simp [hr]
  case h_2 hw => simp [hw]

theorem independent_sending {h : κ}
    (hp : ∀ s, Independent (onLeft (Device.pollWritable h)) g s)
    (hw : ∀ bs s, Independent (onLeft (Device.write h bs)) g s)
    (bs : List Buffer) (acc : Nat × Nat) (s : δ × Pools) :
    Independent (sending h bs acc) g s := by
  induction bs generalizing acc s
  case nil => exact .idle acc g s
  case cons b bs ih =>
    rw [sending_cons]
    apply (hp s).chain
    split
    case h_1 =>
      apply (hw b.data _).chain
      split
      case h_1 => exact ih ..
      case h_2 => exact .idle ..
    case h_2 => exact .idle ..

-- A burst as a call on the device and the pools.
def asCall (run : δ → Pools → Outcome κ δ) :
    δ × Pools → (Nat × QueuePair κ × List Buffer) × (δ × Pools) :=
  fun s =>
    let o := run s.1 s.2
    ((o.count, o.queue, o.buffers), (o.dev, o.pools))

section Calls

variable {q q' : QueuePair κ} {bs bs' : List Buffer} {n n' : Nat} {s : δ × Pools}

theorem asCall_rx_idle (h : q.pool = none ∨ q.slot.get? = none) :
    asCall (δ := δ) (rx q bs n) = idle (0, q, bs) := by
  funext s
  cases h
  case inl h => simp [asCall, rx, h]
  case inr h => simp [asCall, rx, h]

theorem asCall_rx {pool : PoolId} {h : κ} (hp : q.pool = some pool) (hs : q.slot.get? = some h) :
    asCall (δ := δ) (rx q bs n) =
      chain (receiving h pool q.portId n ([], 0)) fun r =>
        idle (r.1.length, { q with counters := q.counters.received r.1.length r.2 },
          bs ++ r.1.reverse) := by
  funext s
  simp [asCall, rx, hp, hs, receiving]

theorem asCall_tx_unset (hs : q.slot.get? = none) (hn : bs ≠ []) :
    asCall (δ := δ) (tx q bs) =
      idle (0, { q with counters := q.counters.transmitted 0 0 (bs.take limit).length }, bs) := by
  funext s
  cases bs
  case nil => exact absurd rfl hn
  case cons => simp [asCall, tx, hs, Buffer.releaseAll]

theorem asCall_tx {h : κ} (hs : q.slot.get? = some h) (hn : bs ≠ []) :
    asCall (δ := δ) (tx q bs) =
      chain (sending h (bs.take limit) (0, 0)) fun r =>
        chain (onRight (giveAllBack (bs.take r.1))) fun _ =>
          idle (r.1, { q with
            counters := q.counters.transmitted r.1 r.2 ((bs.take limit).length - r.1) },
            bs.drop r.1) := by
  funext s
  cases bs
  case nil => exact absurd rfl hn
  case cons => simp [asCall, tx, hs, sending, giveAllBack]

theorem independent_rx
    (ha : ∀ pool h, q.pool = some pool → q.slot.get? = some h → AsideRx h pool g) :
    Independent (asCall (rx q bs n)) g s := by
  cases hp : q.pool
  case none =>
    rw [asCall_rx_idle (.inl hp)]
    exact .idle ..
  case some pool =>
    cases hs : q.slot.get?
    case none =>
      rw [asCall_rx_idle (.inr hs)]
      exact .idle ..
    case some h =>
      rw [asCall_rx hp hs]
      exact ((ha pool h hp hs).receiving ..).map _

-- Only the packets that are sent go back to their pools.
theorem independent_tx
    (hs : ∀ h, q.slot.get? = some h → ∀ s, Independent (sending h (bs.take limit) (0, 0)) g s)
    (hb : ∀ b ∈ bs.take (tx q bs s.1 s.2).count, ∀ s, Independent (onRight (giveBack b)) g s) :
    Independent (asCall (tx q bs)) g s := by
  by_cases hn : bs = []
  case pos => exact hn ▸ .idle (0, q, []) g s
  case neg =>
    cases ho : q.slot.get?
    case none =>
      rw [asCall_tx_unset ho hn]
      exact .idle ..
    case some h =>
      have hc : (tx q bs s.1 s.2).count = (sending h (bs.take limit) (0, 0) s).1.1 :=
        congrArg (·.1.1) (congrFun (asCall_tx (δ := δ) ho hn) s)
      rw [hc] at hb
      rw [asCall_tx ho hn]
      exact (hs h ho s).chain ((independent_giveAllBack hb _).map _)

end Calls

end Burst

-- Descriptors where calls on one do not meet reads from the other.
structure Device.Apart [Device δ κ] (h h' : κ) : Prop where
  read (n n') (d : δ) : Independent (Device.read h n) (Device.read h' n') d
  pollWritable (n) (d : δ) : Independent (Device.read h n) (Device.pollWritable h') d
  write (n bs) (d : δ) : Independent (Device.read h n) (Device.write h' bs) d

namespace Burst

variable [Device δ κ] {h h' : κ} {pool pool' : PoolId} {q q' : QueuePair κ} {bs bs' : List Buffer}
  {n n' : Nat} {s : δ × Pools}

theorem asideRx_alloc (hp : pool ≠ pool') :
    AsideRx (δ := δ) h pool (onRight (Buffer.alloc pool')) := by
  rw [alloc_eq]
  exact asideRx_atPlace hp ..

theorem asideRx_giveBack {b : Buffer} (hp : pool ≠ b.pool) :
    AsideRx (δ := δ) h pool (onRight (giveBack b)) := by
  rw [giveBack_eq]
  exact asideRx_atPlace hp ..

theorem asideRx_sending (ha : Device.Apart (δ := δ) h h') (bs : List Buffer) (acc : Nat × Nat) :
    AsideRx (δ := δ) h pool (sending h' bs acc) where
  alloc s := by
    refine (independent_sending ?ready ?taken bs acc s).symm
    case ready => exact fun _ => .crossed ..
    case taken => exact fun _ _ => .crossed ..
  read n s := by
    refine (independent_sending ?ready ?taken bs acc s).symm
    case ready => exact fun _ => (ha.pollWritable ..).symm.onLeft
    case taken => exact fun _ _ => (ha.write ..).symm.onLeft
  giveBack _ s := by
    refine (independent_sending ?ready ?taken bs acc s).symm
    case ready => exact fun _ => .crossed ..
    case taken => exact fun _ _ => .crossed ..

theorem asideRx_rx
    (ha : ∀ h', q'.slot.get? = some h' → Device.Apart (δ := δ) h h')
    (hp : q'.pool ≠ some pool) :
    AsideRx (δ := δ) h pool (asCall (rx q' bs' n')) where
  alloc s := by
    apply (independent_rx _).symm
    intro pool' h' hp' hs'
    apply asideRx_alloc
    rintro rfl
    exact hp hp'
  read n s := by
    apply (independent_rx _).symm
    intro pool' h' hp' hs'
    apply asideRx_onLeft
    exact fun n' d => ((ha h' hs').read n n' d).symm
  giveBack hb s := by
    apply (independent_rx _).symm
    intro pool' h' hp' hs'
    apply asideRx_giveBack
    rintro rfl
    exact hp (hb ▸ hp')

theorem independent_rx_rx
    (ha : ∀ h h', q.slot.get? = some h → q'.slot.get? = some h' → Device.Apart (δ := δ) h h')
    (hp : ∀ pool, q.pool = some pool → q'.pool ≠ some pool) :
    Independent (asCall (rx q bs n)) (asCall (rx q' bs' n')) s := by
  apply independent_rx
  intro pool h hq hs
  exact asideRx_rx (fun h' hs' => ha h h' hs hs') (hp pool hq)

theorem independent_rx_tx
    (ha : ∀ h h', q.slot.get? = some h → q'.slot.get? = some h' → Device.Apart (δ := δ) h h')
    (hp : ∀ b ∈ bs'.take (tx q' bs' s.1 s.2).count, q.pool ≠ some b.pool) :
    Independent (asCall (rx q bs n)) (asCall (tx q' bs')) s := by
  refine (independent_tx ?sending ?giveBack).symm
  case sending =>
    intro h' hs' s
    apply (independent_rx _).symm
    intro pool h hq hs
    exact asideRx_sending (ha h h' hs hs') ..
  case giveBack =>
    intro b hb s
    apply (independent_rx _).symm
    intro pool h hq hs
    apply asideRx_giveBack
    rintro rfl
    exact hp b hb hq

end Burst

namespace Port

-- A burst on a queue of a port as a call on the port, the device and the pools.
def asCall (run : Port κ → δ → Pools → Outcome κ δ) :
    Port κ × (δ × Pools) → (Nat × List Buffer) × (Port κ × (δ × Pools)) :=
  fun s =>
    let o := run s.1 s.2.1 s.2.2
    ((o.count, o.buffers), (o.port, (o.dev, o.pools)))

section Burst

variable {i j : Nat} {bs bs' : List Buffer} {p : Port κ} {dev : δ} {pools : Pools}
  {run run' : QueuePair κ → List Buffer → δ → Pools → Burst.Outcome κ δ}

def onQueue (i : Nat) (bs : List Buffer)
    (run : QueuePair κ → List Buffer → δ → Pools → Burst.Outcome κ δ) :
    Port κ × (δ × Pools) → (Nat × List Buffer) × (Port κ × (δ × Pools)) :=
  asCall fun p dev pools => p.burst i bs dev pools run

theorem onQueue_none (hi : p.queues[i]? = none) (s : δ × Pools) :
    onQueue i bs run (p, s) = ((0, bs), (p, s)) := by
  simp [onQueue, asCall, burst, hi]

theorem onQueue_some {q : QueuePair κ} (hi : p.queues[i]? = some q) (s : δ × Pools) :
    onQueue i bs run (p, s) =
      let r := Burst.asCall (run q bs) s
      ((r.1.1, r.1.2.2), ({ p with queues := p.queues.set i r.1.2.1 }, r.2)) := by
  simp [onQueue, asCall, burst, hi, Burst.asCall]

theorem queues_onQueue (hij : i ≠ j) (bs : List Buffer)
    (run : QueuePair κ → List Buffer → δ → Pools → Burst.Outcome κ δ) (p : Port κ) (s : δ × Pools) :
    (onQueue i bs run (p, s)).2.1.queues[j]? = p.queues[j]? := by
  cases hi : p.queues[i]?
  case none => rw [onQueue_none hi]
  case some q =>
    rw [onQueue_some hi]
    exact List.getElem?_set_ne hij

theorem independent_of_none (hij : i ≠ j) (hi : p.queues[i]? = none) (s : δ × Pools) :
    Independent (onQueue i bs run) (onQueue j bs' run') (p, s) := by
  have hi' := (queues_onQueue hij.symm bs' run' p s).trans hi
  have he : onQueue i bs run (onQueue j bs' run' (p, s)).2 = _ := onQueue_none hi' _
  constructor
  case left => rw [he, onQueue_none hi]
  case right => rw [onQueue_none hi]
  case state =>
    rw [he, onQueue_none hi]
    rfl

theorem independent_burst (hij : i ≠ j) {s : δ × Pools}
    (h : ∀ q q', p.queues[i]? = some q → p.queues[j]? = some q' →
      Independent (Burst.asCall (run q bs)) (Burst.asCall (run' q' bs')) s) :
    Independent (onQueue i bs run) (onQueue j bs' run') (p, s) := by
  cases hi : p.queues[i]?
  case none => exact independent_of_none hij hi s
  case some q =>
    cases hj : p.queues[j]?
    case none => exact (independent_of_none hij.symm hj s).symm
    case some q' =>
      have hi' := (queues_onQueue hij.symm bs' run' p s).trans hi
      have hj' := (queues_onQueue hij bs run p s).trans hj
      have ⟨hl, hr, hs⟩ := h q q' hi hj
      rw [onQueue_some hj] at hi'
      rw [onQueue_some hi] at hj'
      constructor
      case left => simp only [onQueue_some hj, onQueue_some hi', onQueue_some hi, hl]
      case right => simp only [onQueue_some hi, onQueue_some hj', onQueue_some hj, hr]
      case state =>
        simp only [onQueue_some hi, onQueue_some hi', onQueue_some hj, onQueue_some hj', hl, hr, hs]
        rw [List.set_comm _ _ hij]

end Burst

variable [Device δ κ] {i j n n' : Nat} {bs bs' : List Buffer} {p : Port κ} {dev : δ} {pools : Pools}

-- Receive bursts on different queues, into different pools.
theorem independent_rx_rx (hij : i ≠ j)
    (ha : ∀ h h', p.handle? i = some h → p.handle? j = some h' → Device.Apart (δ := δ) h h')
    (hp : ∀ pool, p.poolOf i = some pool → p.poolOf j ≠ some pool) :
    Independent (asCall fun p dev pools => p.rx i bs n dev pools)
      (asCall fun p dev pools => p.rx j bs' n' dev pools) (p, dev, pools) := by
  apply independent_burst hij
  intro q q' hi hj
  simp only [handle?, poolOf, hi, hj, Option.bind_some] at ha hp
  exact Burst.independent_rx_rx ha hp

-- A receive burst, and a transmit burst on another queue that sends no packet from the pool that
-- is received into.
theorem independent_rx_tx (hij : i ≠ j)
    (ha : ∀ h h', p.handle? i = some h → p.handle? j = some h' → Device.Apart (δ := δ) h h')
    (hp : ∀ b ∈ bs'.take (p.tx j bs' dev pools).count, p.poolOf i ≠ some b.pool) :
    Independent (asCall fun p dev pools => p.rx i bs n dev pools)
      (asCall fun p dev pools => p.tx j bs' dev pools) (p, dev, pools) := by
  apply independent_burst hij
  intro q q' hi hj
  simp only [handle?, poolOf, hi, hj, Option.bind_some, tx, burst] at ha hp
  exact Burst.independent_rx_tx ha hp

end Port

end TapPort
