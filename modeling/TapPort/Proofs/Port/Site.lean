import TapPort.Proofs.Device.Hom
import TapPort.Proofs.Port.Step

namespace TapPort

variable {κ δ δ' χ ρ : Type}

structure Site (δ κ : Type) where
  port : Port κ
  dev : δ

namespace Site

def map (f : δ → δ') (s : Site δ κ) : Site δ' κ := ⟨s.port, f s.dev⟩

inductive Event (χ : Type) where
  | op (op : Port.Op)
  | control (c : χ)

def step [Device δ κ] [Controlled δ χ ρ] (s : Site δ κ) : Event χ → Site δ κ
  | .op op => ⟨(s.port.step s.dev op).port, (s.port.step s.dev op).dev⟩
  | .control c => ⟨s.port, (Controlled.control c s.dev).2⟩

def run [Device δ κ] [Controlled δ χ ρ] (s : Site δ κ) (events : List (Event χ)) : Site δ κ :=
  events.foldl step s

end Site

namespace Port.Effect

def map (f : δ → δ') (e : Effect κ δ) : Effect κ δ' := ⟨e.result, e.port, f e.dev⟩

theorem ofChange_along (f : δ → δ') (p : Port κ) (r : Except Error (Port κ) × δ) :
    ofChange p (along f r) = (ofChange p r).map f := by
  rcases r with ⟨_ | _, _⟩ <;> rfl

theorem ofMove_map (f : δ → δ') (p : Port κ) (dev : δ) (r : Except Error (Port κ × δ)) :
    ofMove p (f dev) (r.map (along f)) = (ofMove p dev r).map f := by
  rcases r with _ | ⟨_, _⟩ <;> rfl

end Port.Effect

variable [Device δ κ] [Device δ' κ] {f : δ → δ'}

open Port.Effect in
theorem Hom.portStep (hf : Hom f) (p : Port κ) (dev : δ) (op : Port.Op) :
    p.step (f dev) op = (p.step dev op).map f := by
  cases op <;> simp only [Port.step]
  case stop => rw [hf.stop, ofMove_map]
  case close => rw [hf.portClose, ofMove_map]
  case shutdown =>
    rw [hf.shutdown]
    rfl
  case setUpRx q pool pools => rw [hf.setUpRx, ofChange_along]
  case setUpTx q => rw [hf.setUpTx, ofChange_along]
  case releaseRx q =>
    rw [hf.releaseRx]
    rfl
  case releaseTx q =>
    rw [hf.releaseTx]
    rfl
  case rx q n bs pools =>
    rw [hf.rx]
    rfl
  case tx q bs pools =>
    rw [hf.tx]
    rfl
  case configure conf => exact ofChange_along f p (p.configure conf, dev)
  case start => exact ofChange_along f p (p.start, dev)
  case resetStats => rfl

namespace Site

variable [Controlled δ χ ρ] [Controlled δ' χ ρ]

theorem step_map (hf : Hom f)
    (hc : ∀ (c : χ) (d : δ), Controlled.control c (f d) = along f (Controlled.control c d))
    (s : Site δ κ) (e : Event χ) : (s.map f).step e = (s.step e).map f := by
  cases e
  case op op =>
    simp only [step, map]
    rw [hf.portStep]
    rfl
  case control c =>
    simp only [step, map]
    rw [hc]
    rfl

theorem run_map (hf : Hom f)
    (hc : ∀ (c : χ) (d : δ), Controlled.control c (f d) = along f (Controlled.control c d))
    (s : Site δ κ) (events : List (Event χ)) : (s.map f).run events = (s.run events).map f := by
  induction events generalizing s
  case nil => rfl
  case cons e events ih =>
    simp only [run, List.foldl_cons, step_map hf hc]
    exact ih _

end Site

end TapPort
