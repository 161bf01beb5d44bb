import TapPort.Proofs.Port.Setup
import TapPort.Tun.Device

namespace TapPort

-- That the kernel is the cause of a failure: the path to it, one of the calls, or what it offers.
inductive Error.OfKernel : Error → Prop
  | openControl {path cause} : OfKernel (.deviceUnavailable (.openControl path cause))
  | readFeatures {cause} : OfKernel (.deviceUnavailable (.readFeatures cause))
  | refused {cause} : OfKernel (.deviceUnavailable (.refused cause))
  | setInterface {name cause} : OfKernel (.deviceUnavailable (.setInterface name cause))
  | setNonblocking {cause} : OfKernel (.deviceUnavailable (.setNonblocking cause))

theorem Error.OfKernel.ofDevice {e : Error} (h : e.OfKernel) : e.OfDevice := by
  cases h <;> exact ⟨_, rfl⟩

namespace TunDevice

variable {d d' : TunDevice} {id : Nat} {e : Error}

theorem ofKernel_of_openControl (h : d.openControl = (.error e, d')) : e.OfKernel := by
  unfold openControl at h
  dsimp only at h
  split at h
  all_goals
    split at h
    all_goals cases h
    exact .openControl

theorem ofKernel_of_readFeatures (h : d.readFeatures id = (.error e, d')) : e.OfKernel := by
  unfold readFeatures at h
  split at h
  all_goals cases h
  exact .readFeatures

theorem ofKernel_of_setNonblocking (h : d.setNonblocking id = (.error e, d')) : e.OfKernel := by
  unfold setNonblocking at h
  split at h
  case h_1 =>
    cases h
    exact .setNonblocking
  case h_2 =>
    split at h
    all_goals cases h
    exact .setNonblocking

theorem ofKernel_of_setUp {requested : Option String} {request : IfReq} {queues : UInt16}
    (h : d.setUp id requested request queues = (.error e, d')) : e.OfKernel := by
  unfold setUp at h
  split at h
  case h_1 hf =>
    cases h
    exact ofKernel_of_readFeatures hf
  case h_2 =>
    split at h
    case h_1 =>
      cases h
      exact .refused
    case h_2 =>
      split at h
      case h_1 =>
        cases h
        exact .setInterface
      case h_2 =>
        split at h
        case h_1 hs =>
          cases h
          exact ofKernel_of_setNonblocking hs
        case h_2 => cases h

theorem openQueue_error {requested : Option String} {queues : UInt16}
    (h : d.openQueue requested queues = (.error e, d')) :
    requestFor requested = .error e ∨ e.OfKernel := by
  unfold openQueue at h
  split at h
  case h_1 hr =>
    cases h
    exact .inl hr
  case h_2 =>
    refine .inr ?_
    split at h
    case h_1 ho =>
      cases h
      exact ofKernel_of_openControl ho
    case h_2 =>
      cases h
      exact .readFeatures
    case h_3 =>
      split at h
      case h_1 => cases h
      case h_2 hs =>
        cases h
        exact ofKernel_of_setUp hs

theorem ofDevice_of_requestFor {requested : Option String}
    (h : requestFor requested = .error e) : e.OfDevice := by
  unfold requestFor at h
  split at h
  case h_1 => cases h
  case h_2 =>
    split at h
    all_goals cases h
    exact ⟨_, rfl⟩

theorem failsAlone : Device.FailsAlone TunDevice := by
  intro requested queues d d' e h
  rcases openQueue_error h with hr | hk
  case inl => exact ofDevice_of_requestFor hr
  case inr => exact hk.ofDevice

end TunDevice

end TapPort
