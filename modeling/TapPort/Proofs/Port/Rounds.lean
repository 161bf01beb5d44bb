import TapPort.Port.Operate
import TapPort.Proofs.Port.Step

namespace TapPort

namespace Port

variable {κ δ : Type} [Device δ κ] {p p₀ p' : Port κ} {dev dev₀ dev' : δ}

namespace Steps

theorem configure (s : Steps p₀ dev₀ p dev) {conf : DevConf} (h : p.configure conf = .ok p') :
    Steps p₀ dev₀ p' dev :=
  s.append (.configure conf) (by rw [step, h, Effect.ofChange_ok])

theorem start (s : Steps p₀ dev₀ p dev) (h : p.start = .ok p') : Steps p₀ dev₀ p' dev :=
  s.append .start (by rw [step, h, Effect.ofChange_ok])

theorem setUpRx (s : Steps p₀ dev₀ p dev) {q : Nat} {pool : PoolId} {pools : Pools}
    (h : p.setUpRx q pool pools dev = (.ok p', dev')) : Steps p₀ dev₀ p' dev' :=
  s.append (.setUpRx q pool pools) (by rw [step, h, Effect.ofChange_ok])

theorem setUpRx_error (s : Steps p₀ dev₀ p dev) {q : Nat} {pool : PoolId} {pools : Pools}
    {e : Error} (h : p.setUpRx q pool pools dev = (.error e, dev')) : Steps p₀ dev₀ p dev' :=
  s.append (.setUpRx q pool pools) (by rw [step, h, Effect.ofChange_error])

theorem setUpTx (s : Steps p₀ dev₀ p dev) {q : Nat} (h : p.setUpTx q dev = (.ok p', dev')) :
    Steps p₀ dev₀ p' dev' :=
  s.append (.setUpTx q) (by rw [step, h, Effect.ofChange_ok])

theorem setUpTx_error (s : Steps p₀ dev₀ p dev) {q : Nat} {e : Error}
    (h : p.setUpTx q dev = (.error e, dev')) : Steps p₀ dev₀ p dev' :=
  s.append (.setUpTx q) (by rw [step, h, Effect.ofChange_error])

theorem equip (s : Steps p₀ dev₀ p dev) (size : Nat) (qs : List Nat) (made : List PoolId)
    (pools : Pools) :
    Steps p₀ dev₀ (equip size qs made p dev pools).port (equip size qs made p dev pools).dev := by
  induction qs generalizing p dev made pools
  case nil => exact s
  case cons q rest ih =>
    simp only [Port.equip]
    split
    case h_1 h => exact s.setUpRx_error h
    case h_2 h =>
      replace s := s.setUpRx h
      split
      case h_1 h => exact s.setUpTx_error h
      case h_2 h => exact ih (s.setUpTx h) ..

theorem share {pool : PoolId} {pools : Pools} (s : Steps p₀ dev₀ p dev) (qs : List Nat)
    (h : share pool pools qs p dev = (.ok p', dev')) : Steps p₀ dev₀ p' dev' := by
  induction qs generalizing p dev
  case nil =>
    cases h
    exact s
  case cons q rest ih =>
    simp only [Port.share] at h
    split at h
    case h_1 => cases h
    case h_2 hr =>
      replace s := s.setUpRx hr
      split at h
      case h_1 => cases h
      case h_2 ht => exact ih (s.setUpTx ht) h

theorem pollQueue {r : Round κ δ} (s : Steps p₀ dev₀ r.port r.dev) (burst : Nat) (reflect : Bool)
    (q : Nat) :
    Steps p₀ dev₀ (pollQueue burst reflect r q).port (pollQueue burst reflect r q).dev := by
  have hr := s.append (.rx q burst [] r.pools) rfl
  simp only [Port.pollQueue]
  split
  case isTrue => exact hr.append (.tx q _ _) rfl
  case isFalse => exact hr

end Steps

theorem steps_bringUp (p : Port κ) (size : Nat) (dev : δ) (pools : Pools) :
    Steps p dev (p.bringUp size dev pools).port (p.bringUp size dev pools).dev := by
  simp only [bringUp]
  split
  case h_1 => exact .refl
  case h_2 p' h =>
    have s : Steps p dev p' dev := Steps.refl.configure h
    replace s := s.equip size (List.range p'.queueCount) [] pools
    split
    case h_1 he =>
      rw [he] at s
      exact s
    case h_2 he =>
      rw [he] at s
      split
      case h_1 => exact s
      case h_2 h => exact s.start h

theorem steps_startShared {pool : PoolId} {pools : Pools}
    (h : p.startShared pool pools dev = (.ok p', dev')) : Steps p dev p' dev' := by
  simp only [startShared] at h
  split at h
  case h_1 => cases h
  case h_2 hc =>
    split at h
    case h_1 => cases h
    case h_2 hs =>
      have s : Steps p dev _ dev := Steps.refl.configure hc
      replace s := s.share (List.range _) hs
      cases hr : Port.start _
      all_goals
        rw [hr] at h
        cases h
      exact s.start hr

theorem steps_poll (p : Port κ) (burst : Nat) (reflect : Bool) (dev : δ) (pools : Pools) :
    Steps p dev (p.poll burst reflect dev pools).port (p.poll burst reflect dev pools).dev := by
  have hf (qs : List Nat) (r : Round κ δ) (s : Steps p dev r.port r.dev) :
      Steps p dev (qs.foldl (pollQueue burst reflect) r).port
        (qs.foldl (pollQueue burst reflect) r).dev := by
    induction qs generalizing r
    case nil => exact s
    case cons q qs ih => exact ih _ (s.pollQueue burst reflect q)
  exact hf _ _ .refl

end Port

end TapPort
