import TapPort.Proofs.Device.Journaled
import TapPort.Proofs.Port.Refinement
import TapPort.Proofs.Port.Setup

namespace TapPort

variable {κ δ : Type} [Device δ κ]

-- That the interface of a queue does not get its address, or has no index.
inductive Address.Missing (h : κ) (id : UInt16) (node : UInt8) (dev : δ) : Prop
  | unread {e dev₁} :
    Device.address h dev = (.error e, dev₁) →
    Missing h id node dev
  | unwritten {old dev₁ e dev₂} :
    Device.address h dev = (.ok old, dev₁) →
    Device.setAddress h (host id node) dev₁ = (.error e, dev₂) →
    Missing h id node dev
  | unindexed {old dev₁ dev₂ e dev₃} :
    Device.address h dev = (.ok old, dev₁) →
    Device.setAddress h (host id node) dev₁ = (.ok (), dev₂) →
    Device.index h dev₂ = (.error e, dev₃) →
    Missing h id node dev

theorem Address.missing_iff {h : κ} {id : UInt16} {node : UInt8} {dev : δ} (iface : String) :
    Missing h id node dev ↔ ∃ e dev', identify h iface id node dev = (.error e, dev') := by
  constructor
  case mp =>
    intro m
    cases m
    case unread ha => simp [identify, assign, ha]
    case unwritten ha hs => simp [identify, assign, ha, hs]
    case unindexed ha hs hx => simp [identify, assign, ha, hs, hx]
  case mpr =>
    rintro ⟨e, dev', hi⟩
    cases ha : Device.address h dev
    case mk a dev₁ =>
      cases a
      case error => exact .unread ha
      case ok old =>
        cases hs : Device.setAddress h (host id node) dev₁
        case mk s dev₂ =>
          cases s
          case error => exact .unwritten ha hs
          case ok =>
            cases hx : Device.index h dev₂
            case mk x dev₃ =>
              cases x
              case error => exact .unindexed ha hs hx
              case ok => simp [identify, assign, ha, hs, hx] at hi

namespace Port

variable {p p' : Port κ} {q : Nat} {dev dev' : δ}

-- That the device does not give a port a queue: it opens none, or one of an interface that would be
-- new to the port and turns out not to do.
inductive Unavailable (p : Port κ) (dev : δ) : Prop
  | refused {e dev₁} :
    Device.openQueue (some p.iface) (UInt16.ofNat p.queueCount) dev = (.error e, dev₁) →
    Unavailable p dev
  | unidentified {h name dev₁} :
    Device.openQueue (some p.iface) (UInt16.ofNat p.queueCount) dev = (.ok (h, name), dev₁) →
    p.openCount = 0 →
    Address.Missing h p.id p.numaNode dev₁ →
    Unavailable p dev

theorem Opening.unavailable {e : Error} (o : Opening p q dev (.error e, dev')) :
    p.queueIsOpen q = false ∧ p.Unavailable dev := by
  cases o
  case refused hq ho => exact ⟨hq, .refused ho⟩
  case unidentified name _ _ hq ho hc hi =>
    exact ⟨hq, .unidentified ho hc ((Address.missing_iff name).2 ⟨_, _, hi⟩)⟩

theorem Opening.available (o : Opening p q dev (.ok p', dev')) :
    ¬(p.queueIsOpen q = false ∧ p.Unavailable dev) := by
  intro ⟨hq, u⟩
  cases o
  case already ho => exact Bool.false_ne_true (hq.symm.trans ho)
  case joined hc ho =>
    cases u
    case refused hr => cases ho.symm.trans hr
    case unidentified hz _ => exact Nat.ne_of_gt hc hz
  case identified name _ _ _ _ ho hc hi =>
    cases u
    case refused hr => cases ho.symm.trans hr
    case unidentified hr _ hm =>
      cases ho.symm.trans hr
      have ⟨_, _, hn⟩ := (Address.missing_iff name).1 hm
      cases hi.symm.trans hn

-- A queue that is open is left alone.
theorem Opening.eq_of_open {r : Except Error (Port κ) × δ} (o : Opening p q dev r)
    (hq : p.queueIsOpen q = true) : r = (.ok p, dev) := by
  cases o
  case already => rfl
  all_goals simp_all

-- That the device refuses a port a queue for reasons of its own only.
def RefusedByDevice (p : Port κ) (dev : δ) : Prop :=
  ∀ e dev', Device.openQueue (some p.iface) (UInt16.ofNat p.queueCount) dev = (.error e, dev') →
    e.OfDevice

theorem Opening.cause {e : Error} (hd : p.RefusedByDevice dev)
    (o : Opening p q dev (.error e, dev')) : e.OfDevice := by
  cases o
  case refused ho => exact hd _ _ ho
  case unidentified hi => exact Address.ofDevice_of_identify hi

-- What is set up: the side that receives, into a pool, or the side that transmits.
inductive Side where
  | receiving (pool : PoolId) (pools : Pools)
  | transmitting

namespace Side

def op (q : Nat) : Side → Op
  | receiving pool pools => .setUpRx q pool pools
  | transmitting => .setUpTx q

-- That the buffers of the pool have no room for a frame.
def Scant : Side → Prop
  | receiving pool pools => (pools[pool]?.map Pool.usableRoom).getD 0 < Frame.receiveRoom
  | transmitting => False

-- What setting up does to the port when the queue is open.
def bind (q : Nat) (p : Port κ) : Side → Port κ
  | receiving pool _ => p.modifyQueue q (·.setPool pool)
  | transmitting => p

-- The pools of the queues of a port afterwards.
def poolsAfter (q : Nat) (before : Nat → Option PoolId) : Side → Nat → Option PoolId
  | receiving pool _ => Function.update before q (some pool)
  | transmitting => before

end Side

-- How setting up a queue may end.
inductive Answer (p : Port κ) (q : Nat) (side : Side) (dev : δ) : Effect κ δ → Prop
  | closed :
    p.phase = .closed →
    Answer p q side dev ⟨.error (.badState .closed), p, dev⟩
  | outOfRange :
    p.phase ≠ .closed → p.queueCount ≤ q →
    Answer p q side dev ⟨.error (.config (.queueOutOfRange q p.queueCount)), p, dev⟩
  | scant (cause : ResourceError) :
    p.phase ≠ .closed → q < p.queueCount → side.Scant →
    Answer p q side dev ⟨.error (.outOfResources cause), p, dev⟩
  | failed {cause dev₁} :
    p.phase ≠ .closed → q < p.queueCount → ¬side.Scant →
    Opening p q dev (.error (.deviceUnavailable cause), dev₁) →
    Answer p q side dev ⟨.error (.deviceUnavailable cause), p, dev₁⟩
  | opened {port dev₁} :
    p.phase ≠ .closed → q < p.queueCount → ¬side.Scant →
    Opening p q dev (.ok port, dev₁) →
    Answer p q side dev ⟨.ok 0, side.bind q port, dev₁⟩

omit [Device δ κ] in
theorem checkSetup_of_le (hp : p.phase ≠ .closed) (hq : p.queueCount ≤ q) :
    p.checkSetup q = .error (.config (.queueOutOfRange q p.queueCount)) := by
  have hm : p.phase ∈ [Phase.created, .configured, .started, .stopped] := by
    revert hp
    cases p.phase <;> simp
  rw [checkSetup, expect_bind_of_mem hm, if_pos hq]

theorem setUp_answer (hd : p.RefusedByDevice dev) (q : Nat) (side : Side) :
    Answer p q side dev (p.step dev (side.op q)) := by
  by_cases hp : p.phase = .closed
  case pos =>
    have hm : p.phase ∉ (side.op q).phases := by
      rw [hp]
      cases side <;> exact of_decide_eq_false rfl
    rw [step_misplaced hm, hp]
    exact .closed hp
  case neg =>
    cases Nat.lt_or_ge q p.queueCount
    case inr hq =>
      have hc := checkSetup_of_le hp hq
      cases side
      case receiving =>
        rw [Side.op, step, setUpRx, hc]
        exact .outOfRange hp hq
      case transmitting =>
        rw [Side.op, step, setUpTx, hc]
        exact .outOfRange hp hq
    case inl hq =>
      have o := p.ensureOpen_opening q dev
      by_cases hs : side.Scant
      case pos =>
        cases side
        case transmitting => exact hs.elim
        case receiving =>
          simp only [Side.Scant] at hs
          rw [Side.op, step, setUpRx, checkSetup_of_lt hp hq]
          dsimp only
          rw [if_pos hs]
          exact .scant _ hp hq hs
      case neg =>
        have he : p.step dev (side.op q) =
            .ofChange p ((p.ensureOpen q dev).1.map (side.bind q), (p.ensureOpen q dev).2) := by
          cases side
          case transmitting =>
            rw [Side.op, step, setUpTx_eq hp hq]
            rcases p.ensureOpen q dev with ⟨_ | _, _⟩ <;> rfl
          case receiving =>
            rw [Side.op, step, setUpRx_eq hp hq (Nat.not_lt.1 hs)]
            rfl
        rw [he]
        generalize p.ensureOpen q dev = r at o
        cases r
        case mk r dev' =>
          cases r
          case error =>
            obtain ⟨cause, rfl⟩ := o.cause hd
            exact .failed hp hq hs o
          case ok => exact .opened hp hq hs o

-- What setting up a queue is found to have done, by its answer.
structure SetUp (p : Port κ) (q : Nat) (side : Side) (dev : Journaled δ κ)
    (e : Effect κ (Journaled δ κ)) : Prop where
  badState : e.result = .error (.badState .closed) ↔ p.phase = .closed
  config : (∃ cause, e.result = .error (.config cause)) ↔ p.phase ≠ .closed ∧ p.queueCount ≤ q
  outOfResources : (∃ cause, e.result = .error (.outOfResources cause)) ↔
    p.phase ≠ .closed ∧ q < p.queueCount ∧ side.Scant
  deviceUnavailable : (∃ cause, e.result = .error (.deviceUnavailable cause)) ↔
    p.phase ≠ .closed ∧ q < p.queueCount ∧ ¬side.Scant ∧
      p.queueIsOpen q = false ∧ p.Unavailable dev
  ok : e.result = .ok 0 ↔
    p.phase ≠ .closed ∧ q < p.queueCount ∧ ¬side.Scant ∧
      ¬(p.queueIsOpen q = false ∧ p.Unavailable dev)
  done : e.succeeded = true →
    (∀ i, e.port.queueIsOpen i = true ↔ i = q ∨ p.queueIsOpen i = true) ∧
      e.port.poolOf = side.poolsAfter q p.poolOf
  -- Where it failed, nothing has changed of the port, and the device has the same queues open.
  undone : e.succeeded = false →
    e.port = p ∧ ∃ entries, e.dev.journal = dev.journal ++ entries ∧ Journaled.Vain entries
  -- A queue that is open is not opened again, nor is the device asked for anything.
  kept : p.queueIsOpen q = true → e.dev = dev

theorem Opening.vain {dev dev' : Journaled δ κ} {e : Error}
    (o : Opening p q dev (.error e, dev')) :
    ∃ entries, dev'.journal = dev.journal ++ entries ∧ Journaled.Vain entries := by
  cases o
  case refused ho => exact ⟨_, Journaled.journal_openQueue ho, .refused _⟩
  case unidentified h _ _ d₂ _ ho _ hi =>
    refine ⟨_, ?_, .undone (some p.iface) h⟩
    calc d₂.journal ++ [.closed h]
      _ = (dev.journal ++ [.asked (some p.iface) (some h)]) ++ [.closed h] := by
        rw [Journaled.journal_identify hi, Journaled.journal_openQueue ho]
        rfl
      _ = dev.journal ++ [.asked (some p.iface) (some h), .closed h] := List.append_assoc ..

-- Setting up a queue is refused for the phase of the port, for the number of the queue, for the
-- room of the pool and for the device, in this order, and for nothing else. Where it is refused,
-- the port is as before, and the device has no queue more or less; otherwise the queue is open and
-- has its pool, and no other queue has changed.
theorem answers_of_setUp (p : Port κ) (q : Nat) (side : Side) (dev : Journaled δ κ)
    (hd : p.RefusedByDevice dev) : SetUp p q side dev (p.step dev (side.op q)) := by
  have a := setUp_answer hd q side
  have hv := (p.step_course dev (side.op q)).view_eq
  generalize p.step dev (side.op q) = e at a hv
  constructor
  case badState => cases a <;> simp [*]
  case config => cases a <;> simp [*]
  case outOfResources => cases a <;> simp [*]
  case deviceUnavailable =>
    cases a
    case failed o => simp [*, o.unavailable]
    case opened o => simp [*, o.available]
    all_goals simp [*]
  case ok =>
    cases a
    case failed o => simp [*, o.unavailable]
    case opened o => simp [*, o.available]
    all_goals simp [*]
  case done =>
    intro hs
    rw [if_pos hs] at hv
    have ho : e.port.view.opened = insert q p.view.opened := by
      rw [hv]
      cases side <;> rfl
    have hp : e.port.view.pool = side.poolsAfter q p.view.pool := by
      rw [hv]
      cases side <;> rfl
    refine ⟨fun i => ?_, hp⟩
    rw [← mem_opened, ← mem_opened, ho, Finset.mem_insert]
  case undone =>
    intro hs
    cases a
    case failed o => exact ⟨rfl, o.vain⟩
    case opened => cases hs
    all_goals exact ⟨rfl, [], (List.append_nil _).symm, .none⟩
  case kept =>
    intro ho
    cases a
    case failed o => cases o.eq_of_open ho
    case opened o =>
      cases o.eq_of_open ho
      rfl
    all_goals rfl

-- The last queue was closed, and the interface that comes with the next one has no address.
theorem answers_of_setUp_unidentified :
    let p := sole.modifyQueue 0 .unset
    let dev : Journaled MemoryTap Nat :=
      .ofDevice { soleDevice with rings := [], failAddress := true }
    let side : Side := .receiving 0 [Pool.ofCapacity "m" 4 2048]
    let e := p.step dev (side.op 0)
    p.RefusedByDevice dev ∧ e.dev.journal = [.asked (some "dtap0") (some 2), .closed 2] ∧
      SetUp p 0 side dev e := by
  intro p dev side e
  have hd : p.RefusedByDevice dev := by
    intro e dev' ho
    have hk : (Device.openQueue (some p.iface) (UInt16.ofNat p.queueCount) dev).1.isOk = true := by
      decide +kernel
    rw [ho] at hk
    cases hk
  exact ⟨hd, by decide +kernel, answers_of_setUp p 0 side dev hd⟩

end Port

end TapPort
