import TapPort.Tun.Device

namespace TapPort

namespace TunFlags

variable {features flags : TunFlags} {queues : UInt16}

-- A flag, among those that the kernel reports, for an interface of so many queues.
structure Chosen (features : TunFlags) (queues : UInt16) (flag : TunFlags) : Prop where
  nonzero : queues ≠ 0
  kind : flag = multiQueue ∨ flag = oneQueue
  reported : features.contains flag = true
  several : 1 < queues → flag = multiQueue
  single : queues = 1 → features.contains oneQueue = true → flag = oneQueue

-- The flags of every interface, and the one that was chosen.
def withBase (flag : TunFlags) : TunFlags := (tap.union noPacketInfo).union flag

theorem chosen_of_negotiate (h : negotiate features queues = .ok flags) :
    ∃ flag, Chosen features queues flag ∧ flags = withBase flag := by
  unfold negotiate at h
  dsimp only at h
  split at h
  case isTrue => cases h
  case isFalse hz =>
    split at h
    case isTrue ho =>
      cases h
      have hs (hl : 1 < queues) : oneQueue = multiQueue := absurd (ho.1 ▸ hl) (by decide)
      exact ⟨oneQueue, ⟨hz, .inr rfl, ho.2, hs, fun _ _ => rfl⟩, rfl⟩
    case isFalse ho =>
      split at h
      case isTrue hm =>
        cases h
        have hs (h₁ : queues = 1) (h₂ : features.contains oneQueue = true) :
            multiQueue = oneQueue := (ho ⟨h₁, h₂⟩).elim
        exact ⟨multiQueue, ⟨hz, .inl rfl, hm, fun _ => rfl, hs⟩, rfl⟩
      case isFalse => cases h

theorem not_chosen_of_negotiate {cause : Refusal} (h : negotiate features queues = .error cause) :
    ¬∃ flag, Chosen features queues flag := by
  intro ⟨flag, hc⟩
  unfold negotiate at h
  dsimp only at h
  rw [if_neg hc.nonzero] at h
  split at h
  case isTrue => cases h
  case isFalse ho =>
    split at h
    case isTrue => cases h
    case isFalse hm =>
      cases hc.kind
      case inl hk => exact hm (hk ▸ hc.reported)
      case inr hk =>
        -- The one-queue flag is not for one queue here, nor for more.
        have hn : queues ≠ 1 := fun hq => ho ⟨hq, hk ▸ hc.reported⟩
        have hz := hc.nonzero
        have hl : 1 < queues := by grind
        exact absurd (hk.symm.trans (hc.several hl)) (by decide)

end TunFlags

namespace IfReq

-- A request with a name, filled up with zeros, and flags, with nothing behind them.
def asking (name : Bytes) (flags : TunFlags) : IfReq where
  name := name ++ Bytes.zeros (nameSize - name.length)
  payload := littleEndian flags.bits ++ Bytes.zeros (payloadSize - 2)

-- That a name does not fit in a request.
def Misfit (name : Bytes) : Prop := nameSize ≤ name.length ∨ 0 ∈ name

variable {name : Bytes}

theorem fits_eq_false : fits name = false ↔ Misfit name := by
  simp [fits, Misfit, Decidable.imp_iff_not_or]

theorem setName?_eq {r : IfReq} {name : String} (h : ¬Misfit (Text.utf8 name)) :
    r.setName? name = some { r with name := nameField (Text.utf8 name) } := by
  have hf : fits (Text.utf8 name) = true := by rwa [← Bool.not_eq_false, fits_eq_false]
  rw [setName?, if_pos hf]

theorem nameField_eq (h : name.length ≤ nameSize) :
    nameField name = name ++ Bytes.zeros (nameSize - name.length) := by
  rw [nameField, Bytes.overlay_zero (by rwa [Bytes.length_zeros]), Bytes.zeros,
    List.drop_replicate]
  rfl

theorem setFlags_eq {r : IfReq} (flags : TunFlags) (hn : name.length ≤ nameSize)
    (hr : r.name = nameField name) (hp : r.payload = Bytes.zeros payloadSize) :
    r.setFlags flags = asking name flags := by
  have ho : Bytes.overlay 0 (littleEndian flags.bits) (Bytes.zeros payloadSize) =
      littleEndian flags.bits ++ Bytes.zeros (payloadSize - 2) :=
    Bytes.overlay_zero (by simp [littleEndian, Bytes.zeros, payloadSize])
  rw [setFlags, asking, hr, hp, nameField_eq hn, ho]

end IfReq

namespace TunDevice

variable {requested : Option String} {request : IfReq}

theorem requestFor_eq_error :
    (∃ e, requestFor requested = .error e) ↔
      ∃ name ∈ requested, IfReq.Misfit (Text.utf8 name) := by
  cases requested
  case none => simp [requestFor]
  case some name =>
    simp only [requestFor, Option.mem_some_iff, exists_eq_left', ← IfReq.fits_eq_false,
      IfReq.ofName?, ← IfReq.setName?_eq_none_iff (r := IfReq.empty)]
    cases IfReq.empty.setName? name <;> simp

theorem request_eq (h : requestFor requested = .ok request) (flags : TunFlags) :
    request.setFlags flags = .asking (Text.utf8 (requested.getD "")) flags := by
  cases requested
  case none =>
    cases h
    exact IfReq.setFlags_eq flags (Nat.zero_le _) rfl rfl
  case some name =>
    simp only [requestFor, IfReq.ofName?, IfReq.setName?] at h
    split at h
    case h_1 hr =>
      cases h
      split at hr
      case isTrue hf =>
        cases hr
        have hl := of_decide_eq_true (Bool.and_eq_true_iff.1 hf).1
        exact IfReq.setFlags_eq flags (Nat.le_of_lt hl) rfl rfl
      case isFalse => cases hr
    case h_2 => cases h

end TunDevice

end TapPort
