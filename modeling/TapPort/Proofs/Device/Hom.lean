import TapPort.Port.Operate

namespace TapPort

variable {κ δ δ' α : Type}

-- An answer with the device after it, seen as another device.
def along (f : δ → δ') (r : α × δ) : α × δ' := (r.1, f r.2)

@[simp]
theorem along_mk (f : δ → δ') (a : α) (d : δ) : along f (a, d) = (a, f d) := rfl

namespace Burst

def Receiving.map (f : δ → δ') (r : Receiving δ) : Receiving δ' :=
  ⟨r.buffers, r.bytes, f r.dev, r.pools⟩

def Sending.map (f : δ → δ') (s : Sending δ) : Sending δ' := ⟨s.count, s.bytes, f s.dev⟩

def Outcome.map (f : δ → δ') (o : Outcome κ δ) : Outcome κ δ' :=
  ⟨o.count, o.queue, o.buffers, f o.dev, o.pools⟩

end Burst

namespace Port

def Outcome.map (f : δ → δ') (o : Outcome κ δ) : Outcome κ δ' :=
  ⟨o.count, o.port, o.buffers, f o.dev, o.pools⟩

def BringUp.map (f : δ → δ') (b : BringUp κ δ) : BringUp κ δ' :=
  ⟨b.result, b.port, f b.dev, b.pools⟩

def Round.map (f : δ → δ') (r : Round κ δ) : Round κ δ' := ⟨r.received, r.port, f r.dev, r.pools⟩

end Port

structure Hom [Device δ κ] [Device δ' κ] (f : δ → δ') : Prop where
  openQueue (name : Option String) (n : UInt16) (d : δ) :
    Device.openQueue name n (f d) = along f (Device.openQueue name n d)
  read (h : κ) (n : Nat) (d : δ) : Device.read h n (f d) = along f (Device.read h n d)
  write (h : κ) (bs : Bytes) (d : δ) : Device.write h bs (f d) = along f (Device.write h bs d)
  pollWritable (h : κ) (d : δ) : Device.pollWritable h (f d) = along f (Device.pollWritable h d)
  address (h : κ) (d : δ) : Device.address h (f d) = along f (Device.address h d)
  setAddress (h : κ) (mac : Mac) (d : δ) :
    Device.setAddress h mac (f d) = along f (Device.setAddress h mac d)
  index (h : κ) (d : δ) : Device.index h (f d) = along f (Device.index h d)
  close (h : κ) (d : δ) : Device.close h (f d) = f (Device.close h d)
  halted (d : δ) : Device.halted (f d) = Device.halted d

namespace Hom

variable [Device δ κ] [Device δ' κ] {f : δ → δ'}

theorem identify (hf : Hom f) (h : κ) (name : String) (id : UInt16) (node : UInt8) (dev : δ) :
    Address.identify h name id node (f dev) = along f (Address.identify h name id node dev) := by
  unfold Address.identify Address.assign
  rw [hf.address]
  rcases Device.address h dev with ⟨_ | _, d⟩
  case error => rfl
  case ok =>
    dsimp only [along_mk]
    rw [hf.setAddress]
    rcases Device.setAddress h (Address.host id node) d with ⟨_ | _, d⟩
    case error => rfl
    case ok =>
      dsimp only [along_mk]
      rw [hf.index]
      rcases Device.index h d with ⟨_ | _, d⟩ <;> rfl

theorem slotClose (hf : Hom f) (s : Slot κ) (dev : δ) : s.close (f dev) = f (s.close dev) := by
  cases s
  case unset => rfl
  case opened h => exact hf.close h dev

theorem queueClose (hf : Hom f) (q : QueuePair κ) (dev : δ) :
    q.close (f dev) = along f (q.close dev) := by
  rw [QueuePair.close, hf.slotClose]
  rfl

theorem closeQueues (hf : Hom f) (qs : List (QueuePair κ)) (dev : δ) :
    Port.closeQueues qs (f dev) = along f (Port.closeQueues qs dev) := by
  induction qs generalizing dev
  case nil => rfl
  case cons q qs ih => simp only [Port.closeQueues, hf.queueClose, along, ih]

section Burst

theorem receive (hf : Hom f) (h : κ) (pool : PoolId) (id : UInt16) (n : Nat)
    (r : Burst.Receiving δ) :
    Burst.receive h pool id n (r.map f) = (Burst.receive h pool id n r).map f := by
  induction n generalizing r
  case zero => rfl
  case succ n ih =>
    simp only [Burst.receive, Burst.Receiving.map]
    split
    case h_1 => rfl
    case h_2 b pools _ =>
      rw [hf.read]
      rcases Device.read h b.tailroom r.dev with ⟨⟨octets, _ | _ | len⟩, d⟩
      case error => rfl
      case ok.zero => rfl
      case ok.succ => exact ih ⟨_, _, d, pools⟩

theorem send (hf : Hom f) (h : κ) (bs : List Buffer) (s : Burst.Sending δ) :
    Burst.send h bs (s.map f) = (Burst.send h bs s).map f := by
  induction bs generalizing s
  case nil => rfl
  case cons b bs ih =>
    simp only [Burst.send, Burst.Sending.map]
    rw [hf.pollWritable]
    rcases Device.pollWritable h s.dev with ⟨_ | _ | _, d⟩
    case error => rfl
    case ok.false => rfl
    case ok.true =>
      dsimp only [along_mk]
      rw [hf.write]
      rcases Device.write h b.data d with ⟨_ | _ | _, d⟩
      case error => rfl
      case ok.zero => rfl
      case ok.succ => exact ih ⟨_, _, d⟩

theorem queueRx (hf : Hom f) (q : QueuePair κ) (bs : List Buffer) (n : Nat) (dev : δ)
    (pools : Pools) : Burst.rx q bs n (f dev) pools = (Burst.rx q bs n dev pools).map f := by
  unfold Burst.rx
  split
  case h_1 pool h _ _ =>
    have hr := hf.receive h pool q.portId n ⟨[], 0, dev, pools⟩
    simp only [Burst.Receiving.map] at hr
    rw [hr]
    rfl
  case h_2 => rfl

theorem queueTx (hf : Hom f) (q : QueuePair κ) (bs : List Buffer) (dev : δ) (pools : Pools) :
    Burst.tx q bs (f dev) pools = (Burst.tx q bs dev pools).map f := by
  unfold Burst.tx
  split
  case h_1 => rfl
  case h_2 b bs =>
    cases q.slot.get?
    case none => rfl
    case some h =>
      have hs := hf.send h ((b :: bs).take Burst.limit) ⟨0, 0, dev⟩
      simp only [Burst.Sending.map] at hs
      dsimp only
      rw [hs]
      rfl

omit [Device δ κ] [Device δ' κ] in
theorem burst (p : Port κ) (q : Nat) (bs : List Buffer) (dev : δ) (pools : Pools)
    {run : QueuePair κ → List Buffer → δ → Pools → Burst.Outcome κ δ}
    {run' : QueuePair κ → List Buffer → δ' → Pools → Burst.Outcome κ δ'}
    (hr : ∀ pair, run' pair bs (f dev) pools = (run pair bs dev pools).map f) :
    p.burst q bs (f dev) pools run' = (p.burst q bs dev pools run).map f := by
  unfold Port.burst
  cases p.queues[q]?
  case none => rfl
  case some pair =>
    dsimp only
    rw [hr]
    rfl

theorem rx (hf : Hom f) (p : Port κ) (q : Nat) (bs : List Buffer) (n : Nat) (dev : δ)
    (pools : Pools) : p.rx q bs n (f dev) pools = (p.rx q bs n dev pools).map f :=
  burst p q bs dev pools fun pair => hf.queueRx pair bs n dev pools

theorem tx (hf : Hom f) (p : Port κ) (q : Nat) (bs : List Buffer) (dev : δ) (pools : Pools) :
    p.tx q bs (f dev) pools = (p.tx q bs dev pools).map f :=
  burst p q bs dev pools fun pair => hf.queueTx pair bs dev pools

end Burst

section Port

variable (p : Port κ) (q : Nat) (dev : δ)

theorem create (hf : Hom f) (name iface : String) (id : UInt16) (args : PortArgs) :
    Port.create name iface id args (f dev) = along f (Port.create name iface id args dev) := by
  unfold Port.create
  split
  case h_1 => rfl
  case h_2 =>
    rw [hf.openQueue]
    rcases Device.openQueue (some iface) args.queues dev with ⟨_ | ⟨h, given⟩, d⟩
    case error => rfl
    case ok =>
      dsimp only [along_mk]
      rw [hf.identify]
      rcases Address.identify h given id args.numaNode d with ⟨_ | _, d⟩
      case error =>
        dsimp only [along_mk]
        rw [hf.close]
      case ok => rfl

theorem halt (hf : Hom f) (phase : Phase) : p.halt phase (f dev) = along f (p.halt phase dev) := by
  simp only [Port.halt, hf.closeQueues, along]

theorem stop (hf : Hom f) : p.stop (f dev) = (p.stop dev).map (along f) := by
  unfold Port.stop
  split
  case isTrue => rfl
  case isFalse =>
    rcases p.expect [.started] with _ | _
    case error => rfl
    case ok =>
      rw [hf.halt]
      rfl

theorem shutdown (hf : Hom f) : p.shutdown (f dev) = along f (p.shutdown dev) := by
  unfold Port.shutdown
  split
  case isTrue => rfl
  case isFalse => exact hf.halt ..

theorem portClose (hf : Hom f) : p.close (f dev) = (p.close dev).map (along f) := by
  unfold Port.close
  rcases p.expect [.created, .configured, .started, .stopped] with _ | _
  case error => rfl
  case ok =>
    rw [hf.shutdown]
    rfl

theorem ensureOpen (hf : Hom f) : p.ensureOpen q (f dev) = along f (p.ensureOpen q dev) := by
  unfold Port.ensureOpen
  split
  case isTrue => rfl
  case isFalse =>
    rw [hf.openQueue]
    rcases Device.openQueue (some p.iface) (UInt16.ofNat p.queueCount) dev with
      ⟨_ | ⟨h, given⟩, d⟩
    case error => rfl
    case ok =>
      dsimp only [along_mk]
      split
      case isFalse => rfl
      case isTrue =>
        rw [hf.identify]
        rcases Address.identify h given p.id p.numaNode d with ⟨_ | _, d⟩
        case error =>
          dsimp only [along_mk]
          rw [hf.close]
        case ok => rfl

theorem setUpRx (hf : Hom f) (pool : PoolId) (pools : Pools) :
    p.setUpRx q pool pools (f dev) = along f (p.setUpRx q pool pools dev) := by
  unfold Port.setUpRx
  split
  case h_1 => rfl
  case h_2 =>
    dsimp only
    split
    case isTrue => rfl
    case isFalse =>
      rw [hf.ensureOpen]
      rcases p.ensureOpen q dev with ⟨_ | _, _⟩ <;> rfl

theorem setUpTx (hf : Hom f) : p.setUpTx q (f dev) = along f (p.setUpTx q dev) := by
  unfold Port.setUpTx
  split
  case h_1 => rfl
  case h_2 => exact hf.ensureOpen ..

theorem closeQueue (hf : Hom f) : p.closeQueue q (f dev) = along f (p.closeQueue q dev) := by
  unfold Port.closeQueue
  cases p.queues[q]?
  case none => rfl
  case some pair =>
    dsimp only
    rw [hf.queueClose]
    rfl

theorem releaseRx (hf : Hom f) : p.releaseRx q (f dev) = along f (p.releaseRx q dev) :=
  hf.closeQueue ..

theorem releaseTx (hf : Hom f) : p.releaseTx q (f dev) = along f (p.releaseTx q dev) :=
  hf.closeQueue ..

theorem equip (hf : Hom f) (size : Nat) (qs : List Nat) (made : List PoolId) (pools : Pools) :
    Port.equip size qs made p (f dev) pools = (Port.equip size qs made p dev pools).map f := by
  induction qs generalizing made p dev pools
  case nil => rfl
  case cons q qs ih =>
    simp only [Port.equip]
    rw [hf.setUpRx]
    rcases p.setUpRx q pools.length _ dev with ⟨_ | p₁, d⟩
    case error => rfl
    case ok =>
      dsimp only [along_mk]
      rw [hf.setUpTx]
      rcases p₁.setUpTx q d with ⟨_ | p₂, d⟩
      case error => rfl
      case ok => exact ih ..

theorem bringUp (hf : Hom f) (size : Nat) (pools : Pools) :
    p.bringUp size (f dev) pools = (p.bringUp size dev pools).map f := by
  simp only [Port.bringUp]
  split
  case h_1 => rfl
  case h_2 p₁ _ =>
    rw [hf.equip]
    rcases Port.equip size (List.range p₁.queueCount) [] p₁ dev pools with ⟨_ | _, p₂, d, _⟩
    case error => rfl
    case ok =>
      dsimp only [Port.BringUp.map]
      rcases p₂.start with _ | _ <;> rfl

theorem share (hf : Hom f) (pool : PoolId) (pools : Pools) (qs : List Nat) :
    Port.share pool pools qs p (f dev) = along f (Port.share pool pools qs p dev) := by
  induction qs generalizing p dev
  case nil => rfl
  case cons q qs ih =>
    simp only [Port.share]
    rw [hf.setUpRx]
    rcases p.setUpRx q pool pools dev with ⟨_ | p₁, d⟩
    case error => rfl
    case ok =>
      dsimp only [along_mk]
      rw [hf.setUpTx]
      rcases p₁.setUpTx q d with ⟨_ | p₂, d⟩
      case error => rfl
      case ok => exact ih ..

theorem startShared (hf : Hom f) (pool : PoolId) (pools : Pools) :
    p.startShared pool pools (f dev) = along f (p.startShared pool pools dev) := by
  simp only [Port.startShared]
  split
  case h_1 => rfl
  case h_2 p₁ _ =>
    rw [hf.share]
    rcases Port.share pool pools (List.range p₁.queueCount) p₁ dev with ⟨_ | _, _⟩ <;> rfl

theorem pollQueue (hf : Hom f) (n : Nat) (reflect : Bool) (r : Port.Round κ δ) :
    Port.pollQueue n reflect (r.map f) q = (Port.pollQueue n reflect r q).map f := by
  simp only [Port.pollQueue, Port.Round.map, hf.rx, Port.Outcome.map]
  split
  case isTrue =>
    rw [hf.tx]
    rfl
  case isFalse => rfl

theorem poll (hf : Hom f) (n : Nat) (reflect : Bool) (pools : Pools) :
    p.poll n reflect (f dev) pools = (p.poll n reflect dev pools).map f := by
  have hr (qs : List Nat) (r : Port.Round κ δ) :
      qs.foldl (Port.pollQueue n reflect) (r.map f) =
        (qs.foldl (Port.pollQueue n reflect) r).map f := by
    induction qs generalizing r
    case nil => rfl
    case cons q qs ih =>
      rw [List.foldl_cons, hf.pollQueue]
      exact ih _
  exact hr _ ⟨0, p, dev, pools⟩

end Port

end Hom

end TapPort
