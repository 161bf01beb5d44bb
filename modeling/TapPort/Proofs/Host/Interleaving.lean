import Mathlib.Logic.Function.Basic
import TapPort.Proofs.Device.Apart
import TapPort.Proofs.Host.Basic

namespace TapPort

variable {κ δ χ ρ : Type} [Device δ κ]

-- A burst with the buffers of a list.
inductive Request where
  | rx (list : String) (n : Nat)
  | tx (list : String)

structure Caller where
  lists : String → List Buffer
  -- What the bursts returned.
  counts : List Nat
  -- The packets that were sent.
  sent : List Buffer

namespace Request

def list : Request → String
  | rx list _ => list
  | tx list => list

def IsRx : Request → Prop
  | rx .. => True
  | tx _ => False

-- The packets that are gone after so many were sent.
def gone (bs : List Buffer) (count : Nat) : Request → List Buffer
  | rx .. => []
  | tx _ => bs.take count

-- The burst on a queue of a port, with the buffers of a caller.
def call (c : Caller) (q : Nat) : Request → Port κ × (δ × Pools) →
    (Nat × List Buffer) × (Port κ × (δ × Pools))
  | rx list n => Port.asCall fun p dev pools => p.rx q (c.lists list) n dev pools
  | tx list => Port.asCall fun p dev pools => p.tx q (c.lists list) dev pools

end Request

namespace Caller

def ofLists (lists : String → List Buffer) : Caller := ⟨lists, [], []⟩

def after (c : Caller) (r : Request) (answer : Nat × List Buffer) : Caller where
  lists := Function.update c.lists r.list answer.2
  counts := c.counts ++ [answer.1]
  sent := c.sent ++ r.gone (c.lists r.list) answer.1

end Caller

-- Two callers, and the port, the device and the pools that they share.
structure Duo (κ δ : Type) where
  first : Caller
  second : Caller
  shared : Port κ × (δ × Pools)

namespace Duo

variable {i j : Nat} {d : Duo κ δ}

def port (d : Duo κ δ) : Port κ := d.shared.1

-- A burst of the first caller on queue `i`, or of the second one on queue `j`.
def step (i j : Nat) (d : Duo κ δ) : Request ⊕ Request → Duo κ δ
  | .inl r =>
    let o := r.call d.first i d.shared
    { d with first := d.first.after r o.1, shared := o.2 }
  | .inr r =>
    let o := r.call d.second j d.shared
    { d with second := d.second.after r o.1, shared := o.2 }

def run (i j : Nat) (d : Duo κ δ) (calls : List (Request ⊕ Request)) : Duo κ δ :=
  calls.foldl (step i j) d

-- That the queues have nothing in common.
structure Parted (i j : Nat) (d : Duo κ δ) : Prop where
  distinct : i ≠ j
  apart : ∀ h h', d.port.handle? i = some h → d.port.handle? j = some h' →
    Device.Apart (δ := δ) h h'
  pools : ∀ pool, d.port.poolOf i = some pool → d.port.poolOf j ≠ some pool

-- That the second caller has sent no packet from the pool that queue `i` receives into.
def Spares (i : Nat) (d : Duo κ δ) : Prop :=
  ∀ b ∈ d.second.sent, d.port.poolOf i ≠ some b.pool

section Step

theorem kept_call (c : Caller) (r : Request) (s : Port κ × (δ × Pools)) (q : Nat) :
    (r.call c q s).2.1.handle? = s.1.handle? ∧ (r.call c q s).2.1.poolOf = s.1.poolOf := by
  cases r
  case rx list n => exact s.1.kept_rx q n (c.lists list) s.2.1 s.2.2
  case tx list => exact s.1.kept_tx q (c.lists list) s.2.1 s.2.2

theorem kept_step (d : Duo κ δ) (c : Request ⊕ Request) :
    (d.step i j c).port.handle? = d.port.handle? ∧ (d.step i j c).port.poolOf = d.port.poolOf := by
  cases c
  case inl r => exact kept_call d.first r d.shared i
  case inr r => exact kept_call d.second r d.shared j

theorem Parted.step (h : d.Parted i j) (c : Request ⊕ Request) : (d.step i j c).Parted i j := by
  have ⟨hh, hp⟩ := d.kept_step (i := i) (j := j) c
  constructor
  case distinct => exact h.distinct
  case apart => exact hh ▸ h.apart
  case pools => exact hp ▸ h.pools

-- What was sent stays sent.
theorem Spares.of_step {c : Request ⊕ Request} (h : (d.step i j c).Spares i) : d.Spares i := by
  intro b hb
  have hp := (d.kept_step (i := i) (j := j) c).2
  rw [← hp]
  apply h
  cases c
  case inl r => exact hb
  case inr r => exact List.mem_append_left _ hb

theorem Spares.of_run {calls : List (Request ⊕ Request)} (h : (d.run i j calls).Spares i) :
    d.Spares i := by
  induction calls generalizing d
  case nil => exact h
  case cons c calls ih => exact (ih h).of_step

theorem independent_call {r r' : Request} (h : d.Parted i j) (hr : r.IsRx)
    (hs : (d.step i j (.inr r')).Spares i) :
    Independent (r.call d.first i) (r'.call d.second j) d.shared := by
  cases r
  case tx => exact hr.elim
  case rx list n =>
    cases r'
    case rx list' n' => exact Port.independent_rx_rx h.distinct h.apart h.pools
    case tx list' =>
      apply Port.independent_rx_tx h.distinct h.apart
      intro b hb
      have hp := (d.kept_step (i := i) (j := j) (.inr (.tx list'))).2
      have hn := hs b (List.mem_append_right _ hb)
      rwa [hp] at hn

theorem step_comm {r r' : Request} (h : d.Parted i j) (hr : r.IsRx)
    (hs : (d.step i j (.inr r')).Spares i) :
    (d.step i j (.inl r)).step i j (.inr r') = (d.step i j (.inr r')).step i j (.inl r) := by
  have ⟨hl, hr, hs⟩ := independent_call h hr hs
  simp only [step, hl, hr, hs]

end Step

section Run

theorem run_append (d : Duo κ δ) (calls calls' : List (Request ⊕ Request)) :
    d.run i j (calls ++ calls') = (d.run i j calls).run i j calls' :=
  List.foldl_append

-- A burst of the first caller can wait until the second one is done.
theorem run_comm {r : Request} {bs : List Request} (h : d.Parted i j) (hr : r.IsRx)
    (hs : (d.run i j (bs.map .inr)).Spares i) :
    (d.step i j (.inl r)).run i j (bs.map .inr) = (d.run i j (bs.map .inr)).step i j (.inl r) := by
  induction bs generalizing d
  case nil => rfl
  case cons b bs ih =>
    simp only [List.map_cons, run, List.foldl_cons] at hs ih ⊢
    rw [step_comm h hr (.of_run hs)]
    exact ih (h.step _) hs

theorem run_eq_second_first {as bs : List Request} {calls : List (Request ⊕ Request)}
    (h : d.Parted i j) (ha : calls.filterMap Sum.getLeft? = as)
    (hb : calls.filterMap Sum.getRight? = bs) (hr : ∀ r ∈ as, r.IsRx)
    (hs : (d.run i j (bs.map .inr)).Spares i) :
    d.run i j calls = d.run i j (bs.map .inr ++ as.map .inl) := by
  induction calls generalizing d as bs
  case nil =>
    cases ha
    cases hb
    rfl
  case cons c calls ih =>
    cases c
    case inl r =>
      simp only [List.filterMap_cons, Sum.getLeft?, Sum.getRight?] at ha hb
      subst ha
      have ⟨hr, hrs⟩ := List.forall_mem_cons.1 hr
      have hc := run_comm h hr hs
      have hs' : ((d.step i j (.inl r)).run i j (bs.map .inr)).Spares i := by
        have hp := ((d.run i j (bs.map .inr)).kept_step (i := i) (j := j) (.inl r)).2
        rw [hc, Spares, hp]
        exact hs
      calc (d.step i j (.inl r)).run i j calls
        _ = (d.step i j (.inl r)).run i j
            (bs.map .inr ++ (calls.filterMap Sum.getLeft?).map .inl) :=
          ih (h.step _) rfl hb hrs hs'
        _ = ((d.run i j (bs.map .inr)).step i j (.inl r)).run i j _ := by rw [run_append, hc]
        _ = d.run i j (bs.map .inr ++ .inl r :: _) := (run_append d _ (.inl r :: _)).symm
    case inr r =>
      simp only [List.filterMap_cons, Sum.getLeft?, Sum.getRight?] at ha hb
      subst hb
      exact ih (h.step _) ha rfl hr hs

-- Every interleaving comes to the same.
theorem run_interleaved {as bs : List Request} {calls : List (Request ⊕ Request)}
    (h : d.Parted i j) (ha : calls.filterMap Sum.getLeft? = as)
    (hb : calls.filterMap Sum.getRight? = bs) (hr : ∀ r ∈ as, r.IsRx)
    (hs : (d.run i j (bs.map .inr)).Spares i) :
    d.run i j calls = d.run i j (as.map .inl ++ bs.map .inr) := by
  rw [run_eq_second_first h ha hb hr hs]
  symm
  apply run_eq_second_first h _ _ hr hs
  all_goals simp [List.filterMap_append, List.filterMap_map, Function.comp_def]

-- What holds of a device under traffic holds of it after all bursts.
theorem holds_run {Holds : δ → Prop} (t : Traffic fun dev (_ : List κ) => Holds dev)
    (hd : Holds d.shared.2.1) (calls : List (Request ⊕ Request)) :
    Holds (d.run i j calls).shared.2.1 := by
  have call (c : Caller) (r : Request) (q : Nat) (s : Port κ × (δ × Pools)) (hd : Holds s.2.1) :
      Holds (r.call c q s).2.2.1 := by
    cases r
    case rx list n => exact t.rx [] n (c.lists list) s.2.2 hd
    case tx list => exact t.tx [] (c.lists list) s.2.2 hd
  induction calls generalizing d
  case nil => exact hd
  case cons c calls ih =>
    apply ih
    cases c
    case inl r => exact call d.first r i d.shared hd
    case inr r => exact call d.second r j d.shared hd

end Run

end Duo

namespace Host

-- Two callers with these buffers, who have made no burst yet on a port of the host.
def duo (h : Host δ κ) (p : Port κ) (lists lists' : String → List Buffer) : Duo κ δ :=
  ⟨.ofLists lists, .ofLists lists', (p, (h.dev, h.pools))⟩

-- Whatever happened before, as far as there is room for the ids of queues, bursts of two callers on
-- queues that receive into different pools can be interleaved as one likes: each burst returns the
-- same, the same packets are received, and the port, the device and the pools are left the same.
theorem interleaved_of_run (features : TunFlags) (events : List (Event MemoryTap.Control))
    {place i j : Nat} {p : Port Nat} (lists lists' : String → List Buffer) {as bs : List Request}
    {calls : List (Request ⊕ Request)} :
    let h : Host MemoryTap Nat := (ofDevice (MemoryTap.ofFeatures features)).run events
    let d := h.duo p lists lists'
    (d.run i j calls).shared.2.1.opens < UInt32.size ∧
      (h.ports[place]? = some p → i ≠ j →
      (∀ pool, p.poolOf i = some pool → p.poolOf j ≠ some pool) →
      (∀ r ∈ as, r.IsRx) →
      (d.run i j (bs.map .inr)).Spares i →
      calls.filterMap Sum.getLeft? = as → calls.filterMap Sum.getRight? = bs →
      d.run i j calls = d.run i j (as.map .inl ++ bs.map .inr)) := by
  intro h d
  have t : Traffic fun (dev : MemoryTap) (_ : List Nat) => dev.opens < UInt32.size := by
    constructor
    case read => exact fun n _ ho => (MemoryTap.opens_read n).trans_lt ho
    case write => exact fun bs _ ho => (MemoryTap.opens_write bs).trans_lt ho
    case pollWritable => exact fun _ ho => ho
  refine ⟨Duo.holds_run t (MemoryTap.fits_iff.1 (fits_run features events)).1 calls, ?_⟩
  intro hp hij hd hr hs ha hb
  have hn : p.handles.Nodup :=
    (List.nodup_flatMap.1 (serves_run features events).nodup).1 p (List.mem_of_getElem? hp)
  have parted : d.Parted i j := by
    constructor
    case distinct => exact hij
    case apart => exact fun _ _ hi hj => MemoryTap.apart_of_ne (Port.handle?_ne hn hij hi hj)
    case pools => exact hd
  exact Duo.run_interleaved parted ha hb hr hs

-- One port with two queues, each with a pool and with frames that wait for it.
def duoEvents : List (Event MemoryTap.Control) :=
  [.addPool "m" 2 2048, .addPool "n" 2 2048, .make "a" "dtap0" 0 ⟨none, Link.defaultSpeed, 2, 0⟩,
    .port 0 (.setUpRx 0 0 []), .port 0 (.setUpRx 1 1 []), .control (.pushTo 0 [7]),
    .control (.pushTo 1 [8]), .control (.pushTo 0 [9]), .control (.pushTo 1 [10, 11])]

def duoHost : Host MemoryTap Nat :=
  (ofDevice (MemoryTap.ofFeatures MemoryTap.defaultFeatures)).run duoEvents

theorem ports_duoHost : duoHost.ports[0]?.isSome := by decide +kernel

def duoPort : Port Nat := duoHost.ports[0]?.get ports_duoHost

-- The second caller sends back what it received, between two bursts of the first one.
theorem interleaved_of_run_reflected :
    let d := duoHost.duo duoPort (fun _ => []) fun _ => []
    let d' := d.run 0 1 [.inr (.rx "back" 5), .inl (.rx "kept" 1), .inr (.tx "back"),
      .inl (.rx "kept" 5)]
    d' = d.run 0 1 [.inl (.rx "kept" 1), .inl (.rx "kept" 5), .inr (.rx "back" 5),
      .inr (.tx "back")] ∧ d'.first.counts = [1, 1] ∧ d'.second.counts = [2, 2] := by
  intro d d'
  have hp : duoHost.ports[0]? = some duoPort := (Option.some_get _).symm
  have hd : ∀ pool, duoPort.poolOf 0 = some pool → duoPort.poolOf 1 ≠ some pool := by
    have h₀ : duoPort.poolOf 0 = some 0 := by decide +kernel
    have h₁ : duoPort.poolOf 1 = some 1 := by decide +kernel
    simp [h₀, h₁]
  have hr : ∀ r ∈ [Request.rx "kept" 1, .rx "kept" 5], r.IsRx := by simp [Request.IsRx]
  have hs : (d.run 0 1 [.inr (.rx "back" 5), .inr (.tx "back")]).Spares 0 := by
    simp only [Duo.Spares, d]
    decide +kernel
  refine ⟨?_, ?_, ?_⟩
  case refine_1 =>
    have hc := @interleaved_of_run MemoryTap.defaultFeatures duoEvents 0 0 1 duoPort (fun _ => [])
      (fun _ => []) [.rx "kept" 1, .rx "kept" 5] [.rx "back" 5, .tx "back"]
      [.inr (.rx "back" 5), .inl (.rx "kept" 1), .inr (.tx "back"), .inl (.rx "kept" 5)]
    exact hc.2 hp Nat.zero_ne_one hd hr hs rfl rfl
  case refine_2 => decide +kernel
  case refine_3 => decide +kernel

end Host

end TapPort
