import TapPort.Command.Run
import TapPort.Proofs.Args.Reading
import TapPort.Proofs.Port.Rounds

namespace TapPort

namespace Command

variable {o : RunOptions} {clock : Clock} {args : PortArgs}

theorem portArgs_eq_ok (h : portArgs o = .ok args) :
    (1 ≤ o.queues.toNat ∧ o.queues.toNat ≤ maxQueues) ∧
      ∃ parsed, PortArgs.parse o.devargs = .ok parsed ∧
        args = { parsed with queues := o.queues } := by
  unfold portArgs at h
  split at h
  case isTrue => cases h
  case isFalse hq =>
    split at h
    case h_1 => cases h
    case h_2 parsed hp =>
      cases h
      exact ⟨by omega, parsed, hp, rfl⟩

theorem validate_portArgs (h : portArgs o = .ok args) : args.validate = .ok () := by
  have ⟨hq, parsed, hp, ha⟩ := portArgs_eq_ok h
  have hn := (PortArgs.validate_eq_ok_iff.1 (PortArgs.validate_parse hp)).1
  subst ha
  exact PortArgs.validate_eq_ok_iff.2 ⟨hn, hq⟩

-- Makes the port of a run: the first one in a registry.
def makePort (args : PortArgs) (dev : TunDevice) : Except Error (Port TunQueue) × TunDevice :=
  Port.create portName ((Registry.ofDevice dev : Registry TunDevice TunQueue).interfaceFor args).1 0
    args dev

-- Closes the port of a run that got through, and gives up the one of a run that failed.
def finish : Except Failure String × Port TunQueue × TunDevice → Except Failure String × TunDevice
  | (.error e, p, dev) => (.error e, abandon p dev)
  | (.ok text, p, dev) => (.ok text, (p.shutdown dev).2)

-- The registry of a run, which has the one port in it.
def soleRegistry (p : Port TunQueue) (dev : TunDevice) (unit : UInt32) :
    Registry TunDevice TunQueue :=
  ⟨dev, [p], [(portName, 0)], unit⟩

theorem remove_sole (p : Port TunQueue) (dev : TunDevice) (unit : UInt32) :
    ((soleRegistry p dev unit).remove portName).dev = (p.shutdown dev).2 := by
  simp [soleRegistry, Registry.remove]

theorem probe_eq (h : args.validate = .ok ()) (dev : TunDevice) :
    (Registry.ofDevice dev : Registry TunDevice TunQueue).probe portName args =
      match makePort args dev with
      | (.error e, dev') => (.error e, .ofDevice dev')
      | (.ok p, dev') => (.ok 0, soleRegistry p dev'
        ((Registry.ofDevice dev : Registry TunDevice TunQueue).interfaceFor args).2) := by
  let r : Registry TunDevice TunQueue := .ofDevice dev
  have hl : (r.names.lookup portName).isSome = false := rfl
  have hi : r.lowestFreeId = some 0 := rfl
  have hm : Port.create portName (r.interfaceFor args).1 0 args r.dev = makePort args dev := rfl
  unfold Registry.probe
  rw [h, hl, hi]
  simp only [Bool.false_eq_true, if_false]
  rw [hm]
  rcases makePort args dev with ⟨_ | p, dev'⟩ <;> rfl

theorem runPort_eq (h : portArgs o = .ok args) (dev : TunDevice) :
    runPort o clock dev =
      match makePort args dev with
      | (.error e, dev) => (.error (.operation e), dev)
      | (.ok p, dev) => finish (operate o clock p dev) := by
  unfold runPort
  rw [h]
  dsimp only
  rw [probe_eq (validate_portArgs h)]
  rcases makePort args dev with ⟨_ | p, dev'⟩
  case error => rfl
  case ok =>
    dsimp only [soleRegistry, List.getElem?_cons_zero]
    rcases operate o clock p dev' with ⟨_ | text, p', dev''⟩
    case error => rfl
    case ok => exact congrArg (Prod.mk _) (remove_sole p' dev'' _)

section Steps

variable {p₀ : Port TunQueue} {dev₀ : TunDevice}

theorem steps_pollUntil (clock : Clock) (burst : Nat) (reflect : Bool) (deadline left now : Nat)
    {r : Port.Round TunQueue TunDevice} (s : Port.Steps p₀ dev₀ r.port r.dev) :
    Port.Steps p₀ dev₀ (pollUntil clock burst reflect deadline left now r).port
      (pollUntil clock burst reflect deadline left now r).dev := by
  induction left generalizing now r
  case zero => exact s
  case succ left ih =>
    rw [pollUntil]
    split
    case isTrue => exact ih _ (s.trans (Port.steps_poll ..))
    case isFalse => exact s

theorem steps_operate (o : RunOptions) (clock : Clock) (p : Port TunQueue) (dev : TunDevice) :
    Port.Steps p dev (operate o clock p dev).2.1 (operate o clock p dev).2.2 := by
  have s := Port.steps_bringUp p o.poolSize dev []
  unfold operate
  generalize p.bringUp o.poolSize dev [] = b at s
  rcases b with ⟨_ | made, p, dev, pools⟩
  case error => exact s
  case ok =>
    dsimp only
    cases clock.deadline? o.seconds
    case none => exact s
    case some deadline =>
      have sp := steps_pollUntil clock o.burst o.reflect deadline (deadline - clock.reading 2)
        (clock.reading 2) (r := ⟨0, p, dev, pools⟩) s
      dsimp only [pollPort]
      split
      case h_1 => exact sp
      case h_2 =>
        split
        case h_1 => exact sp
        case h_2 h => exact sp.stop h

end Steps

end Command

end TapPort
