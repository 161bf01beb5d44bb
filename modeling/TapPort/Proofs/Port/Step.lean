import TapPort.Device.Memory
import TapPort.Proofs.Port.Slots

namespace TapPort

namespace Port

variable {κ δ : Type}

-- An operation that may change a port, with all that it is given beside the device.
inductive Op where
  | configure (conf : DevConf)
  | start
  | stop
  | close
  | shutdown
  | setUpRx (q : Nat) (pool : PoolId) (pools : Pools)
  | setUpTx (q : Nat)
  | releaseRx (q : Nat)
  | releaseTx (q : Nat)
  | resetStats
  | rx (q n : Nat) (buffers : List Buffer) (pools : Pools)
  | tx (q : Nat) (buffers : List Buffer) (pools : Pools)

-- What an operation leaves behind. The result of a burst is the number of packets that it moved.
structure Effect (κ δ : Type) where
  result : Except Error Nat
  port : Port κ
  dev : δ

namespace Effect

def succeeded (e : Effect κ δ) : Bool := e.result.isOk

-- A change that is refused leaves the port as it is, whatever became of the device.
def ofChange (p : Port κ) : Except Error (Port κ) × δ → Effect κ δ
  | (.ok p, dev) => ⟨.ok 0, p, dev⟩
  | (.error e, dev) => ⟨.error e, p, dev⟩

def ofMove (p : Port κ) (dev : δ) : Except Error (Port κ × δ) → Effect κ δ
  | .ok (p, dev) => ⟨.ok 0, p, dev⟩
  | .error e => ⟨.error e, p, dev⟩

def ofBurst (o : Outcome κ δ) : Effect κ δ := ⟨.ok o.count, o.port, o.dev⟩

section

variable (p p' : Port κ) (dev dev' : δ) (e : Error) (o : Outcome κ δ)

@[simp]
theorem ofChange_ok : ofChange p (.ok p', dev) = ⟨.ok 0, p', dev⟩ := rfl

@[simp]
theorem ofChange_error : ofChange p (.error e, dev) = ⟨.error e, p, dev⟩ := rfl

@[simp]
theorem ofMove_ok : ofMove p dev (.ok (p', dev')) = ⟨.ok 0, p', dev'⟩ := rfl

@[simp]
theorem ofMove_error : ofMove p dev (.error e) = ⟨.error e, p, dev⟩ := rfl

@[simp]
theorem succeeded_ok (n : Nat) : (⟨.ok n, p, dev⟩ : Effect κ δ).succeeded = true := rfl

@[simp]
theorem succeeded_error : (⟨.error e, p, dev⟩ : Effect κ δ).succeeded = false := rfl

end

end Effect

variable [Device δ κ]

def step (p : Port κ) (dev : δ) : Op → Effect κ δ
  | .configure conf => .ofChange p (p.configure conf, dev)
  | .start => .ofChange p (p.start, dev)
  | .stop => .ofMove p dev (p.stop dev)
  | .close => .ofMove p dev (p.close dev)
  | .shutdown => .ofMove p dev (.ok (p.shutdown dev))
  | .setUpRx q pool pools => .ofChange p (p.setUpRx q pool pools dev)
  | .setUpTx q => .ofChange p (p.setUpTx q dev)
  | .releaseRx q => .ofMove p dev (.ok (p.releaseRx q dev))
  | .releaseTx q => .ofMove p dev (.ok (p.releaseTx q dev))
  | .resetStats => .ofMove p dev (.ok (p.resetStats, dev))
  | .rx q n buffers pools => .ofBurst (p.rx q buffers n dev pools)
  | .tx q buffers pools => .ofBurst (p.tx q buffers dev pools)

-- An operation, and the device as it finds it.
structure Call (δ : Type) where
  op : Op
  dev : δ

def after (p : Port κ) (c : Call δ) : Port κ := (p.step c.dev c.op).port

section Lifecycle

variable (p : Port κ) (dev : δ)

theorem expect_eq_ok_or (phases : List Phase) :
    p.phase ∈ phases ∧ p.expect phases = .ok () ∨
      p.phase ∉ phases ∧ p.expect phases = .error (.badState p.phase) := by
  unfold expect
  split
  case isTrue h => exact .inl ⟨h, rfl⟩
  case isFalse h => exact .inr ⟨h, rfl⟩

theorem configure_cases (conf : DevConf) :
    (∃ e, p.configure conf = .error e) ∨
      p.phase ≠ .started ∧ p.phase ≠ .closed ∧
        p.configure conf = .ok { p with phase := .configured } := by
  unfold configure
  rcases p.expect_eq_ok_or [.created, .configured, .stopped] with ⟨hm, he⟩ | ⟨_, he⟩
  case inl =>
    rw [he]
    refine .inr ⟨?_, ?_, rfl⟩ <;> rintro h <;> simp [h] at hm
  case inr =>
    rw [he]
    exact .inl ⟨_, rfl⟩

theorem start_cases :
    (∃ e, p.start = .error e) ∨ p.phase = .started ∧ p.start = .ok p ∨
      p.phase ≠ .closed ∧
        p.start = .ok { p with phase := .started, link := { p.link with state := .up } } := by
  unfold start
  split
  case isTrue h => exact .inr (.inl ⟨h, rfl⟩)
  case isFalse =>
    rcases p.expect_eq_ok_or [.configured, .stopped] with ⟨hm, he⟩ | ⟨_, he⟩
    case inl =>
      rw [he]
      refine .inr (.inr ⟨?_, rfl⟩)
      rintro h
      simp [h] at hm
    case inr =>
      rw [he]
      exact .inl ⟨_, rfl⟩

-- A port that is stopped already is not looked at any further.
theorem stop_cases :
    (∃ e, p.stop dev = .error e) ∨ p.phase = .stopped ∧ p.stop dev = .ok (p, dev) ∨
      p.phase = .started ∧ p.stop dev = .ok (p.halt .stopped dev) := by
  unfold stop
  split
  case isTrue h => exact .inr (.inl ⟨h, rfl⟩)
  case isFalse =>
    rcases p.expect_eq_ok_or [.started] with ⟨hm, he⟩ | ⟨_, he⟩
    case inl =>
      rw [he]
      exact .inr (.inr ⟨by simpa using hm, rfl⟩)
    case inr =>
      rw [he]
      exact .inl ⟨_, rfl⟩

theorem shutdown_cases :
    p.phase = .closed ∧ p.shutdown dev = (p, dev) ∨
      p.phase ≠ .closed ∧ p.shutdown dev = p.halt .closed dev := by
  unfold shutdown
  split
  case isTrue h => exact .inl ⟨h, rfl⟩
  case isFalse h => exact .inr ⟨h, rfl⟩

theorem phase_shutdown : (p.shutdown dev).1.phase = .closed := by
  rcases p.shutdown_cases dev with ⟨hp, h⟩ | ⟨-, h⟩
  case inl => rwa [h]
  case inr => rw [h, halt_eq]

theorem close_cases :
    (∃ e, p.close dev = .error e) ∨
      p.phase ≠ .closed ∧ p.close dev = .ok (p.halt .closed dev) := by
  unfold close
  rcases p.expect_eq_ok_or [.created, .configured, .started, .stopped] with ⟨hm, he⟩ | ⟨_, he⟩
  case inl =>
    have hp : p.phase ≠ .closed := by
      rintro h
      simp [h] at hm
    rw [he]
    refine .inr ⟨hp, ?_⟩
    rw [shutdown, if_neg hp]
    rfl
  case inr =>
    rw [he]
    exact .inl ⟨_, rfl⟩

end Lifecycle

def run (p : Port κ) (calls : List (Call δ)) : Port κ := calls.foldl after p

-- A call, and the port that it is made on.
structure Transition (κ δ : Type) where
  source : Port κ
  call : Call δ

namespace Transition

def effect (t : Transition κ δ) : Effect κ δ := t.source.step t.call.dev t.call.op

def target (t : Transition κ δ) : Port κ := t.effect.port

end Transition

-- The transitions of a run in order.
def trace (p : Port κ) : List (Call δ) → List (Transition κ δ)
  | [] => []
  | c :: rest => ⟨p, c⟩ :: trace (p.after c) rest

theorem run_concat (p : Port κ) (calls : List (Call δ)) (c : Call δ) :
    p.run (calls ++ [c]) = (p.run calls).after c := by
  simp [run]

theorem trace_concat (p : Port κ) (calls : List (Call δ)) (c : Call δ) :
    p.trace (calls ++ [c]) = p.trace calls ++ [⟨p.run calls, c⟩] := by
  induction calls generalizing p
  case nil => rfl
  case cons hd tl ih => simp only [List.cons_append, trace, ih, run, List.foldl_cons]

-- Steps of one port on the device, each of which takes up where the one before left off.
inductive Steps (p : Port κ) (dev : δ) : Port κ → δ → Prop
  | refl : Steps p dev p dev
  | tail {p' dev'} (op : Op) :
    Steps p dev p' dev' → Steps p dev (p'.step dev' op).port (p'.step dev' op).dev

theorem Steps.single (p : Port κ) (dev : δ) (op : Op) :
    Steps p dev (p.step dev op).port (p.step dev op).dev :=
  .tail op .refl

theorem Steps.append {p₀ p : Port κ} {dev₀ dev : δ} {e : Effect κ δ} (s : Steps p₀ dev₀ p dev)
    (op : Op) (h : p.step dev op = e) : Steps p₀ dev₀ e.port e.dev :=
  h ▸ .tail op s

theorem Steps.shutdown {p₀ p p' : Port κ} {dev₀ dev dev' : δ} (s : Steps p₀ dev₀ p dev)
    (h : p.shutdown dev = (p', dev')) : Steps p₀ dev₀ p' dev' :=
  s.append (e := ⟨.ok 0, p', dev'⟩) .shutdown (by rw [step, h, Effect.ofMove_ok])

theorem Steps.stop {p₀ p p' : Port κ} {dev₀ dev dev' : δ} (s : Steps p₀ dev₀ p dev)
    (h : p.stop dev = .ok (p', dev')) : Steps p₀ dev₀ p' dev' :=
  s.append (e := ⟨.ok 0, p', dev'⟩) .stop (by rw [step, h, Effect.ofMove_ok])

theorem Steps.trans {p p₁ p₂ : Port κ} {dev dev₁ dev₂ : δ} (s : Steps p dev p₁ dev₁)
    (s' : Steps p₁ dev₁ p₂ dev₂) : Steps p dev p₂ dev₂ := by
  induction s'
  case refl => exact s
  case tail op _ ih => exact ih.tail op

-- The calls that operations make on a port that has the device to itself.
def alone (p : Port κ) (dev : δ) : List Op → List (Call δ)
  | [] => []
  | op :: rest => ⟨op, dev⟩ :: alone (p.after ⟨op, dev⟩) (p.step dev op).dev rest

-- A port right after it was made: its first queue is open, and nothing was counted.
def initial (name iface : String) (id : UInt16) (args : PortArgs) (mac : Mac) (ifIndex : UInt32)
    (h : κ) : Port κ where
  name := name
  iface := iface
  id := id
  numaNode := args.numaNode
  phase := .created
  link := Link.ofSpeed args.speed
  mac := mac
  ifIndex := ifIndex
  queues :=
    ((List.range args.queues.toNat).map fun i => QueuePair.ofIndex i id).modify 0 (.opened h)

omit [Device δ κ] in
theorem handles_initial (name iface : String) (id : UInt16) (mac : Mac) (ifIndex : UInt32) (h : κ)
    {args : PortArgs} (ha : 0 < args.queues.toNat) :
    (initial name iface id args mac ifIndex h).handles = [h] := by
  obtain ⟨n, hn⟩ := Nat.exists_eq_add_one.2 ha
  simp only [handles, initial, hn, List.range_succ_eq_map, List.map_cons, List.modify_zero_cons,
    List.filterMap_cons, QueuePair.opened, Slot.get?]
  rw [List.map_map, List.filterMap_map]
  congr 1
  exact List.filterMap_eq_nil_iff.2 fun _ _ => rfl

-- How making a port may end.
inductive Making (name iface : String) (id : UInt16) (args : PortArgs) (dev : δ) :
    Except Error (Port κ) × δ → Prop
  | invalid {e} : args.validate = .error e → Making name iface id args dev (.error e, dev)
  | refused {e dev'} :
    args.validate = .ok () →
    Device.openQueue (some iface) args.queues dev = (.error e, dev') →
    Making name iface id args dev (.error e, dev')
  | unidentified {h given dev' e dev''} :
    args.validate = .ok () →
    Device.openQueue (some iface) args.queues dev = (.ok (h, given), dev') →
    Address.identify h given id args.numaNode dev' = (.error e, dev'') →
    Making name iface id args dev (.error e, Device.close h dev'')
  | made {h given dev' mac ifIndex dev''} :
    args.validate = .ok () →
    Device.openQueue (some iface) args.queues dev = (.ok (h, given), dev') →
    Address.identify h given id args.numaNode dev' = (.ok (mac, ifIndex), dev'') →
    Making name iface id args dev (.ok (initial name given id args mac ifIndex h), dev'')

theorem create_making (name iface : String) (id : UInt16) (args : PortArgs) (dev : δ) :
    Making name iface id args dev (create name iface id args dev) := by
  unfold create
  split
  case h_1 hv => exact .invalid hv
  case h_2 hv =>
    split
    case h_1 ho => exact .refused hv ho
    case h_2 ho =>
      split
      case h_1 hi => exact .unidentified hv ho hi
      case h_2 hi => exact .made hv ho hi

theorem queues_of_validate {args : PortArgs} (h : args.validate = .ok ()) :
    0 < args.queues.toNat ∧ args.queues.toNat ≤ maxQueues := by
  by_contra hq
  have hr : args.queues.toNat = 0 ∨ maxQueues < args.queues.toNat := by omega
  unfold PortArgs.validate at h
  simp only [hr, if_true] at h
  cases hi : args.iface
  case none => simp [hi] at h
  case some name =>
    cases hc : PortArgs.checkName name
    all_goals simp [hi, hc, bind, Except.bind] at h

theorem queues_pos_of_validate {args : PortArgs} (h : args.validate = .ok ()) :
    0 < args.queues.toNat :=
  (queues_of_validate h).1

-- That a port was made, over a device of some kind.
def Made (δ : Type) [Device δ κ] (p : Port κ) : Prop :=
  ∃ name iface id args, ∃ dev dev' : δ, create name iface id args dev = (.ok p, dev')

theorem Made.exists_initial {p : Port κ} (h : Made δ p) :
    ∃ name iface id args mac ifIndex h,
      p = initial name iface id args mac ifIndex h ∧ args.validate = .ok () := by
  obtain ⟨name, iface, id, args, dev, dev', hc⟩ := h
  have hm := create_making name iface id args dev
  rw [hc] at hm
  cases hm
  case made hv _ _ => exact ⟨_, _, _, _, _, _, _, rfl, hv⟩

theorem Made.poolOf_eq {p : Port κ} (h : Made δ p) (q : Nat) : p.poolOf q = none := by
  obtain ⟨_, _, _, _, _, _, _, rfl, _⟩ := h.exists_initial
  simp only [poolOf, initial, List.getElem?_modify, List.getElem?_map]
  cases (List.range _)[q]? <;> simp [QueuePair.ofIndex]
  split <;> rfl

theorem Making.create_eq {name iface : String} {id : UInt16} {args : PortArgs} {dev : δ}
    {r : Except Error (Port κ) × δ} (m : Making name iface id args dev r) :
    create name iface id args dev = r := by
  unfold create
  cases m
  case invalid hv => simp only [hv]
  case refused hv ho => simp only [hv, ho]
  case unidentified hv ho hi => simp only [hv, ho, hi]
  case made hv ho hi =>
    simp only [hv, ho, hi]
    rfl

-- That a port is what a run makes of one that was made.
def Ran (δ : Type) [Device δ κ] (p : Port κ) : Prop :=
  ∃ p₀, ∃ calls : List (Call δ), Made δ p₀ ∧ p = p₀.run calls

theorem Made.ran {p : Port κ} (h : Made δ p) : Ran δ p := ⟨p, [], h, rfl⟩

theorem Steps.ran {p p' : Port κ} {dev dev' : δ} (s : Steps p dev p' dev') (h : Ran δ p) :
    Ran δ p' := by
  induction s
  case refl => exact h
  case tail p₁ dev₁ op _ ih =>
    obtain ⟨p₀, calls, hm, rfl⟩ := ih
    refine ⟨p₀, calls ++ [⟨op, dev₁⟩], hm, ?_⟩
    rw [run_concat]
    rfl

-- The first port on a device in memory, with one queue, and the device after it was made.
def sole : Port Nat :=
  initial "a" "dtap0" 0 ⟨none, Link.defaultSpeed, 1, 0⟩ (Address.app 0 0) 7 1

def soleDevice : MemoryTap :=
  (create "a" "dtap0" 0 ⟨none, Link.defaultSpeed, 1, 0⟩ MemoryTap.default).2

theorem made_sole : Made MemoryTap sole :=
  ⟨"a", "dtap0", 0, ⟨none, Link.defaultSpeed, 1, 0⟩, .default, soleDevice, rfl⟩

end Port

end TapPort
