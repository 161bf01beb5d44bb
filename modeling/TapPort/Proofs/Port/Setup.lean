import TapPort.Proofs.Port.Step

namespace TapPort

variable {κ δ : Type} [Device δ κ]

def Error.OfDevice (e : Error) : Prop := ∃ cause, e = .deviceUnavailable cause

-- That opening a queue fails for reasons of the device only.
def Device.FailsAlone (δ : Type) [Device δ κ] : Prop :=
  ∀ {iface : Option String} {n : UInt16} {dev dev' : δ} {e : Error},
    Device.openQueue iface n dev = (.error e, dev') → e.OfDevice

-- That an interface could not be given its address, or has no index.
inductive Error.OfAddress : Error → Prop
  | readAddress {cause} : OfAddress (.deviceUnavailable (.readAddress cause))
  | setAddress {cause} : OfAddress (.deviceUnavailable (.setAddress cause))
  | findIndex {iface cause} : OfAddress (.deviceUnavailable (.findIndex iface cause))

section Identify

variable {h : κ} {iface : String} {id : UInt16} {node : UInt8} {dev dev' : δ} {e : Error}

theorem Error.OfAddress.ofDevice (h : e.OfAddress) : e.OfDevice := by
  cases h <;> exact ⟨_, rfl⟩

theorem Address.ofAddress_of_assign (ha : Address.assign h id node dev = (.error e, dev')) :
    e.OfAddress := by
  unfold assign at ha
  split at ha
  case h_1 =>
    cases ha
    exact .readAddress
  case h_2 =>
    split at ha
    all_goals cases ha
    exact .setAddress

theorem Address.ofAddress_of_identify
    (hi : Address.identify h iface id node dev = (.error e, dev')) : e.OfAddress := by
  unfold identify at hi
  split at hi
  case h_1 ha =>
    cases hi
    exact ofAddress_of_assign ha
  case h_2 =>
    split at hi
    all_goals cases hi
    exact .findIndex

theorem Address.ofDevice_of_identify
    (hi : Address.identify h iface id node dev = (.error e, dev')) : e.OfDevice :=
  (ofAddress_of_identify hi).ofDevice

end Identify

namespace Port

variable {p : Port κ} {q : Nat} {dev dev' : δ} {e : Error}

theorem Opening.ofDevice (hd : Device.FailsAlone δ) (o : Opening p q dev (.error e, dev')) :
    e.OfDevice := by
  cases o
  case refused ho => exact hd ho
  case unidentified hi => exact Address.ofDevice_of_identify hi

theorem Making.ofDevice {name iface : String} {id : UInt16} {args : PortArgs}
    (hd : Device.FailsAlone δ) (hv : args.validate = .ok ())
    (m : Making name iface id args dev (.error e, dev')) : e.OfDevice := by
  cases m
  case invalid he => cases hv.symm.trans he
  case refused ho => exact hd ho
  case unidentified hi => exact Address.ofDevice_of_identify hi

section Setup

variable (hp : p.phase ≠ .closed) (hq : q < p.queueCount)

include hp hq

omit [Device δ κ] in
theorem checkSetup_of_lt : p.checkSetup q = .ok () := by
  have hm : p.phase ∈ [Phase.created, .configured, .started, .stopped] := by
    revert hp
    cases p.phase <;> simp
  simp [checkSetup, expect, hm, Nat.not_le.2 hq, bind, Except.bind, pure, Except.pure]

theorem setUpTx_eq (dev : δ) : p.setUpTx q dev = p.ensureOpen q dev := by
  rw [setUpTx, checkSetup_of_lt hp hq]

theorem setUpRx_eq {pool : PoolId} {pools : Pools}
    (hr : Frame.receiveRoom ≤ (pools[pool]?.map Pool.usableRoom).getD 0) (dev : δ) :
    p.setUpRx q pool pools dev =
      ((p.ensureOpen q dev).1.map (·.modifyQueue q (·.setPool pool)), (p.ensureOpen q dev).2) := by
  rw [setUpRx, checkSetup_of_lt hp hq]
  dsimp only
  rw [if_neg (Nat.not_lt.2 hr)]
  rcases p.ensureOpen q dev with ⟨_ | _, _⟩ <;> rfl

end Setup

end Port

end TapPort
