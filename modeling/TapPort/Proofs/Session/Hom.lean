import TapPort.Proofs.Device.Hom
import TapPort.Scenario.Session

namespace TapPort

variable {κ δ δ' χ ρ : Type}

def Registry.map (f : δ → δ') (r : Registry δ κ) : Registry δ' κ := { r with dev := f r.dev }

namespace Registry

variable (f : δ → δ') (r : Registry δ κ)

@[simp]
theorem dev_map : (r.map f).dev = f r.dev := rfl

@[simp]
theorem ports_map : (r.map f).ports = r.ports := rfl

@[simp]
theorem names_map : (r.map f).names = r.names := rfl

@[simp]
theorem lowestFreeId_map : (r.map f).lowestFreeId = r.lowestFreeId := rfl

@[simp]
theorem interfaceFor_map (args : PortArgs) :
    (r.map f).interfaceFor args = r.interfaceFor args := rfl

end Registry

def Session.map (f : δ → δ') (s : Session δ κ) : Session δ' κ :=
  { s with registry := s.registry.map f }

namespace Hom

variable [Device δ κ] [Device δ' κ] {f : δ → δ'}

theorem probe (hf : Hom f) (r : Registry δ κ) (name : String) (args : PortArgs) :
    (r.map f).probe name args = along (Registry.map f) (r.probe name args) := by
  simp only [Registry.probe, Registry.names_map, Registry.lowestFreeId_map,
    Registry.interfaceFor_map, Registry.dev_map, Registry.ports_map, hf.create]
  split
  case h_1 => rfl
  case h_2 =>
    split
    case isTrue => rfl
    case isFalse =>
      cases r.lowestFreeId
      case none => rfl
      case some id =>
        dsimp only
        rcases Port.create name (r.interfaceFor args).1 id args r.dev with ⟨_ | _, _⟩ <;> rfl

theorem probeText (hf : Hom f) (r : Registry δ κ) (name text : String) :
    (r.map f).probeText name text = along (Registry.map f) (r.probeText name text) := by
  unfold Registry.probeText
  split
  case h_1 => rfl
  case h_2 => exact hf.probe ..

theorem registryCreate (hf : Hom f) (r : Registry δ κ) (name iface : String) (id : UInt16)
    (args : PortArgs) :
    (r.map f).create name iface id args = along (Registry.map f) (r.create name iface id args) := by
  simp only [Registry.create, Registry.dev_map, Registry.ports_map, hf.create]
  rcases Port.create name iface id args r.dev with ⟨_ | _, _⟩ <;> rfl

theorem remove (hf : Hom f) (r : Registry δ κ) (name : String) :
    (r.map f).remove name = (r.remove name).map f := by
  simp only [Registry.remove, Registry.names_map, Registry.dev_map, Registry.ports_map, hf.shutdown]
  split
  case h_1 => rfl
  case h_2 place _ =>
    cases r.ports[place]? <;> rfl

variable (s : Session δ κ) (place : Nat) (p : Port κ)

-- The same reply, or none on either side, and the same session.
def answers (f : δ → δ') (r : Option (Session.Reply ρ × Session δ κ)) :
    Option (Session.Reply ρ × Session δ' κ) :=
  r.map (along (Session.map f))

omit [Device δ κ] [Device δ' κ] in
theorem changed (r : Except Error (Port κ) × δ) :
    (s.map f).changed (ρ := ρ) place p (along f r) =
      along (Session.map f) (s.changed place p r) := by
  rcases r with ⟨_ | _, _⟩ <;> rfl

omit [Device δ κ] [Device δ' κ] in
theorem moved (r : Except Error (Port κ × δ)) :
    (s.map f).moved (ρ := ρ) place (r.map (along f)) = along (Session.map f) (s.moved place r) := by
  rcases r with _ | ⟨_, _⟩ <;> rfl

omit [Device δ κ] [Device δ' κ] in
theorem afterBringUp (b : Port.BringUp κ δ) :
    (s.map f).afterBringUp (ρ := ρ) place (b.map f) =
      along (Session.map f) (s.afterBringUp place b) := by
  rcases b with ⟨_ | _, _, _, _⟩ <;> rfl

theorem stepPort (hf : Hom f) (op : Session.PortOp) :
    (s.map f).stepPort (ρ := ρ) place p op = answers f (s.stepPort place p op) := by
  have hd : (s.map f).registry.dev = f s.registry.dev := rfl
  have hs : (s.map f).stock = s.stock := rfl
  cases op <;> simp only [Session.stepPort, hd, hs]
  case configure conf => exact congrArg some (changed s place p (p.configure conf, s.registry.dev))
  case start => exact congrArg some (changed s place p (p.start, s.registry.dev))
  case stop =>
    rw [hf.stop, moved]
    rfl
  case close =>
    rw [hf.portClose, moved]
    rfl
  case setUpRx q number =>
    cases s.stock.numbered[number]?
    case none => rfl
    case some pool =>
      dsimp only
      rw [hf.setUpRx, changed]
      rfl
  case setUpTx q =>
    rw [hf.setUpTx, changed]
    rfl
  case releaseRx q =>
    rw [hf.releaseRx]
    rfl
  case releaseTx q =>
    rw [hf.releaseTx]
    rfl
  case rx q n list =>
    rw [hf.rx]
    rfl
  case tx q list =>
    rw [hf.tx]
    rfl
  case table view => cases Session.tableOf p view <;> rfl
  case bringUp size =>
    rw [hf.bringUp, afterBringUp]
    rfl
  case startShared number =>
    cases s.stock.numbered[number]?
    case none => rfl
    case some pool =>
      dsimp only
      rw [hf.startShared]
      rcases p.startShared pool s.stock.pools s.registry.dev with ⟨_ | _, _⟩ <;> rfl
  case poll n reflect =>
    rw [hf.poll]
    rfl
  all_goals rfl

omit [Device δ κ] [Device δ' κ] in
theorem afterMaking (r : Except Error Nat × Registry δ κ) :
    (s.map f).afterMaking (ρ := ρ) (along (Registry.map f) r) =
      along (Session.map f) (s.afterMaking r) := by
  rcases r with ⟨_ | place, r⟩
  case error => rfl
  case ok =>
    simp only [Session.afterMaking, along_mk, Registry.ports_map]
    cases r.ports[place]? <;> rfl

variable [Controlled δ χ ρ] [Controlled δ' χ ρ]

theorem attempt (hf : Hom f)
    (hc : ∀ (c : χ) (d : δ), Controlled.control c (f d) = along f (Controlled.control c d))
    (op : Session.Op χ) : (s.map f).attempt op = answers f (s.attempt op) := by
  have hr : (s.map f).registry = s.registry.map f := rfl
  cases op <;> simp only [Session.attempt, hr]
  case probe name args =>
    rw [hf.probe, afterMaking]
    rfl
  case probeText name text =>
    rw [hf.probeText, afterMaking]
    rfl
  case create name iface id args =>
    rw [hf.registryCreate, afterMaking]
    rfl
  case remove name =>
    rw [hf.remove]
    rfl
  case port place op =>
    rw [Registry.ports_map]
    cases s.registry.ports[place]?
    case none => rfl
    case some p => exact hf.stepPort s place p op
  case control c =>
    rw [Registry.dev_map, hc]
    rfl
  all_goals rfl

theorem step (hf : Hom f)
    (hc : ∀ (c : χ) (d : δ), Controlled.control c (f d) = along f (Controlled.control c d))
    (op : Session.Op χ) : (s.map f).step op = answers f (s.step op) := by
  rw [Session.step, Session.step, hf.attempt s hc]
  cases s.attempt op
  case none => rfl
  case some r =>
    have hh : Device.halted (along (Session.map f) r).2.registry.dev =
        Device.halted r.2.registry.dev := hf.halted _
    simp only [answers, Option.map_some, Option.filter_some, hh]
    cases Device.halted r.2.registry.dev <;> rfl

-- A session does not notice which of the devices it is on.
theorem run (hf : Hom f)
    (hc : ∀ (c : χ) (d : δ), Controlled.control c (f d) = along f (Controlled.control c d))
    (ops : List (Session.Op χ)) : (s.map f).run ops = (s.run ops).map f := by
  induction ops generalizing s
  case nil => rfl
  case cons op ops ih =>
    simp only [Session.run, hf.step s hc]
    rcases s.step op with _ | ⟨_, s'⟩
    case none => rfl
    case some => exact ih s'

end Hom

end TapPort
