import TapPort.Proofs.Port.Step

namespace TapPort

namespace Port

variable {κ δ : Type}

-- That an operation finds a port where it would take it.
inductive Op.Idles : Op → Phase → Prop
  | start {phase} : phase = .started → Idles .start phase
  | stop {phase} : phase = .stopped → Idles .stop phase
  | shutdown {phase} : phase = .closed → Idles .shutdown phase

-- That an operation brings a port from one phase to a halt in another.
inductive Op.Halts : Op → Phase → Phase → Prop
  | stop {phase} : phase = .started → Halts .stop phase .stopped
  | close {phase} : phase ≠ .closed → Halts .close phase .closed
  | shutdown {phase} : phase ≠ .closed → Halts .shutdown phase .closed

inductive Op.Opens (q : Nat) : Op → Prop
  | setUpRx (pool : PoolId) (pools : Pools) : Opens q (.setUpRx q pool pools)
  | setUpTx : Opens q (.setUpTx q)

variable [Device δ κ]

inductive Course (p : Port κ) (dev : δ) : Op → Effect κ δ → Prop
  | refused (op : Op) (e : Error) : Course p dev op ⟨.error e, p, dev⟩
  | idle {op} : op.Idles p.phase → Course p dev op ⟨.ok 0, p, dev⟩
  | configured (conf : DevConf) :
    p.phase ≠ .started →
    p.phase ≠ .closed →
    Course p dev (.configure conf) ⟨.ok 0, { p with phase := .configured }, dev⟩
  | started :
    p.phase ≠ .closed →
    Course p dev .start
      ⟨.ok 0, { p with phase := .started, link := { p.link with state := .up } }, dev⟩
  | halted {op phase} :
    op.Halts p.phase phase →
    Course p dev op ⟨.ok 0, (p.halt phase dev).1, (p.halt phase dev).2⟩
  | notOpened {op q e dev'} :
    op.Opens q →
    Opening p q dev (.error e, dev') →
    Course p dev op ⟨.error e, p, dev'⟩
  | openedRx {q p' dev'} (pool : PoolId) (pools : Pools) :
    p.phase ≠ .closed →
    q < p.queueCount →
    Opening p q dev (.ok p', dev') →
    Course p dev (.setUpRx q pool pools) ⟨.ok 0, p'.modifyQueue q (·.setPool pool), dev'⟩
  | openedTx {q p' dev'} :
    p.phase ≠ .closed →
    q < p.queueCount →
    Opening p q dev (.ok p', dev') →
    Course p dev (.setUpTx q) ⟨.ok 0, p', dev'⟩
  | releasedRx (q : Nat) :
    Course p dev (.releaseRx q)
      ⟨.ok 0, (p.modifyQueue q .unset).modifyQueue q .clearPool,
        Device.closeAll (p.handle? q).toList dev⟩
  | releasedTx (q : Nat) :
    Course p dev (.releaseTx q)
      ⟨.ok 0, p.modifyQueue q .unset, Device.closeAll (p.handle? q).toList dev⟩
  | statsReset : Course p dev .resetStats ⟨.ok 0, p.resetStats, dev⟩
  | received (q n : Nat) (bs : List Buffer) (pools : Pools) (c : QueueCounters) :
    Course p dev (.rx q n bs pools)
      ⟨.ok (p.rx q bs n dev pools).count, p.modifyQueue q (.counted c),
        (p.rx q bs n dev pools).dev⟩
  | sent (q : Nat) (bs : List Buffer) (pools : Pools) (c : QueueCounters) :
    Course p dev (.tx q bs pools)
      ⟨.ok (p.tx q bs dev pools).count, p.modifyQueue q (.counted c), (p.tx q bs dev pools).dev⟩

section Setup

variable (p : Port κ) (dev : δ) (q : Nat)

theorem setUpRx_course (pool : PoolId) (pools : Pools) :
    Course p dev (.setUpRx q pool pools) (p.step dev (.setUpRx q pool pools)) := by
  rw [step]
  cases p.setUpRx_opening q pool pools dev
  case inl h =>
    obtain ⟨e, h⟩ := h
    rw [h]
    exact .refused _ e
  case inr h =>
    obtain ⟨hp, hq, h⟩ := h
    have o := p.ensureOpen_opening q dev
    rw [h]
    generalize p.ensureOpen q dev = r at o
    cases r
    case mk r dev' =>
      cases r
      case error => exact .notOpened (.setUpRx pool pools) o
      case ok => exact .openedRx pool pools hp hq o

theorem setUpTx_course : Course p dev (.setUpTx q) (p.step dev (.setUpTx q)) := by
  rw [step]
  cases p.setUpTx_opening q dev
  case inl h =>
    obtain ⟨e, h⟩ := h
    rw [h]
    exact .refused _ e
  case inr h =>
    obtain ⟨hp, hq, h⟩ := h
    have o := p.ensureOpen_opening q dev
    rw [h]
    generalize p.ensureOpen q dev = r at o
    cases r
    case mk r dev' =>
      cases r
      case error => exact .notOpened .setUpTx o
      case ok => exact .openedTx hp hq o

end Setup

theorem step_course (p : Port κ) (dev : δ) (op : Op) : Course p dev op (p.step dev op) := by
  cases op
  case configure conf =>
    rcases p.configure_cases conf with ⟨e, h⟩ | ⟨hs, hc, h⟩ <;> rw [step, h]
    case inl => exact .refused _ e
    case inr => exact .configured conf hs hc
  case start =>
    rcases p.start_cases with ⟨e, h⟩ | ⟨hs, h⟩ | ⟨hc, h⟩ <;> rw [step, h]
    case inl => exact .refused _ e
    case inr.inl => exact .idle (.start hs)
    case inr.inr => exact .started hc
  case stop =>
    rcases p.stop_cases dev with ⟨e, h⟩ | ⟨hs, h⟩ | ⟨hs, h⟩ <;> rw [step, h]
    case inl => exact .refused _ e
    case inr.inl => exact .idle (.stop hs)
    case inr.inr => exact .halted (.stop hs)
  case close =>
    rcases p.close_cases dev with ⟨e, h⟩ | ⟨hc, h⟩ <;> rw [step, h]
    case inl => exact .refused _ e
    case inr => exact .halted (.close hc)
  case shutdown =>
    rcases p.shutdown_cases dev with ⟨hc, h⟩ | ⟨hc, h⟩ <;> rw [step, h]
    case inl => exact .idle (.shutdown hc)
    case inr => exact .halted (.shutdown hc)
  case setUpRx q pool pools => exact p.setUpRx_course dev q pool pools
  case setUpTx q => exact p.setUpTx_course dev q
  case releaseRx q =>
    rw [step, releaseRx_eq]
    exact .releasedRx q
  case releaseTx q =>
    rw [step, releaseTx, closeQueue_eq]
    exact .releasedTx q
  case resetStats => exact .statsReset
  case rx q n bs pools =>
    obtain ⟨c, h⟩ := p.exists_rx_port q n bs dev pools
    rw [step, Effect.ofBurst, h]
    exact .received q n bs pools c
  case tx q bs pools =>
    obtain ⟨c, h⟩ := p.exists_tx_port q bs dev pools
    rw [step, Effect.ofBurst, h]
    exact .sent q bs pools c

end Port

end TapPort
