import TapPort.Proofs.Port.Rounds
import TapPort.Proofs.Port.Title
import TapPort.Proofs.Registry
import TapPort.Scenario.Session

namespace TapPort

variable {κ δ χ ρ : Type} [Device δ κ] [Controlled δ χ ρ]

namespace Session

-- That a step makes a port which is not entered in the registry.
def Op.Bypasses : Op χ → Prop
  | .create .. => True
  | _ => False

omit [Device δ κ] in
theorem registry_afterMaking (s : Session δ κ) (r : Except Error Nat × Registry δ κ) :
    (s.afterMaking (ρ := ρ) r).2.registry = r.2 := by
  unfold afterMaking
  split
  case h_1 => rfl
  case h_2 => split <;> rfl

-- That a session goes on with the port in a place after steps of that port.
def Carries (s : Session δ κ) (place : Nat) (p : Port κ) (s' : Session δ κ) : Prop :=
  ∃ p' dev, Port.Steps p s.registry.dev p' dev ∧
    s'.registry = { s.registry with dev, ports := s.registry.ports.set place p' }

section Carries

variable {s s' : Session δ κ} {place : Nat} {p : Port κ}

theorem carries_self (hp : s.registry.ports[place]? = some p) : s.Carries place p s := by
  refine ⟨p, s.registry.dev, .refl, ?_⟩
  obtain ⟨hl, rfl⟩ := List.getElem?_eq_some_iff.1 hp
  rw [List.set_getElem_self]

theorem carries_changed {r : Except Error (Port κ) × δ} (op : Port.Op)
    (h : p.step s.registry.dev op = .ofChange p r) :
    s.Carries place p (s.changed (ρ := ρ) place p r).2 := by
  have hs := Port.Steps.refl.append op h
  rcases r with ⟨_ | p', dev⟩
  case error => exact ⟨p, dev, hs, rfl⟩
  case ok => exact ⟨p', dev, hs, rfl⟩

theorem carries_moved {r : Except Error (Port κ × δ)} (hp : s.registry.ports[place]? = some p)
    (op : Port.Op) (h : p.step s.registry.dev op = .ofMove p s.registry.dev r) :
    s.Carries place p (s.moved (ρ := ρ) place r).2 := by
  have hs := Port.Steps.refl.append op h
  rcases r with _ | ⟨p', dev⟩
  case error => exact carries_self hp
  case ok => exact ⟨p', dev, hs, rfl⟩

theorem carries_afterBurst {list : String} {o : Port.Outcome κ δ} (op : Port.Op)
    (h : p.step s.registry.dev op = .ofBurst o) :
    s.Carries place p (s.afterBurst (ρ := ρ) place list o).2 :=
  ⟨o.port, o.dev, Port.Steps.refl.append op h, rfl⟩

theorem carries_afterBringUp {b : Port.BringUp κ δ}
    (h : Port.Steps p s.registry.dev b.port b.dev) :
    s.Carries place p (s.afterBringUp (ρ := ρ) place b).2 := by
  refine ⟨b.port, b.dev, h, ?_⟩
  unfold afterBringUp
  split <;> rfl

theorem stepPort_carries {op : PortOp} {reply : Reply ρ}
    (hp : s.registry.ports[place]? = some p) (h : s.stepPort place p op = some (reply, s')) :
    s.Carries place p s' := by
  have he {r : Reply ρ × Session δ κ} (hr : some r = some (reply, s')) : r.2 = s' :=
    congrArg Prod.snd (Option.some.inj hr)
  cases op
  case configure conf =>
    obtain rfl := he h
    exact carries_changed (.configure conf) rfl
  case start =>
    obtain rfl := he h
    exact carries_changed .start rfl
  case stop =>
    obtain rfl := he h
    exact carries_moved hp .stop rfl
  case close =>
    obtain rfl := he h
    exact carries_moved hp .close rfl
  case setUpRx q number =>
    simp only [stepPort] at h
    split at h
    case h_1 =>
      obtain rfl := he h
      exact carries_self hp
    case h_2 pool _ =>
      obtain rfl := he h
      exact carries_changed (.setUpRx q pool s.stock.pools) rfl
  case setUpTx q =>
    obtain rfl := he h
    exact carries_changed (.setUpTx q) rfl
  case releaseRx q =>
    obtain rfl := he h
    exact carries_moved hp (.releaseRx q) rfl
  case releaseTx q =>
    obtain rfl := he h
    exact carries_moved hp (.releaseTx q) rfl
  case resetStats =>
    obtain rfl := he h
    exact carries_moved hp .resetStats rfl
  case rx q n list =>
    obtain rfl := he h
    exact carries_afterBurst (.rx q n (s.stock.list list) s.stock.pools) rfl
  case tx q list =>
    obtain rfl := he h
    exact carries_afterBurst (.tx q (s.stock.list list) s.stock.pools) rfl
  case table view =>
    obtain ⟨text, -, ht⟩ := Option.map_eq_some_iff.1 h
    obtain rfl := congrArg Prod.snd ht
    exact carries_self hp
  case bringUp size =>
    obtain rfl := he h
    exact carries_afterBringUp (Port.steps_bringUp ..)
  case startShared number =>
    simp only [stepPort] at h
    split at h
    case h_1 =>
      obtain rfl := he h
      exact carries_self hp
    case h_2 =>
      split at h
      case h_1 => cases h
      case h_2 p' dev hs =>
        obtain rfl := he h
        exact ⟨p', dev, Port.steps_startShared hs, rfl⟩
  case poll burst reflect =>
    obtain rfl := he h
    exact ⟨_, _, Port.steps_poll p burst reflect s.registry.dev s.stock.pools, rfl⟩
  all_goals
    obtain rfl := he h
    exact carries_self hp

end Carries

-- A step is an attempt that leaves the device with room for its counts.
theorem step_eq_some {s s' : Session δ κ} {op : Op χ} {reply : Reply ρ} :
    s.step op = some (reply, s') ↔
      s.attempt op = some (reply, s') ∧ Device.halted s'.registry.dev = false := by
  rw [step, Option.filter_eq_some_iff, Bool.not_eq_true']

theorem attempt_move {s s' : Session δ κ} {op : Op χ} {reply : Reply ρ} (i : s.registry.Intact)
    (hb : ¬op.Bypasses) (h : s.attempt op = some (reply, s')) :
    s.registry.Move s'.registry := by
  have he {r : Reply ρ × Session δ κ} (hr : some r = some (reply, s')) :
      r.2.registry = s'.registry :=
    congrArg (·.2.registry) (Option.some.inj hr)
  cases op
  case probe name args =>
    rw [← he h, registry_afterMaking]
    exact Registry.probe_move name args
  case probeText name text =>
    rw [← he h, registry_afterMaking]
    exact Registry.probeText_move name text
  case create => exact (hb trivial).elim
  case remove name =>
    rw [← he h]
    exact i.remove_move name
  case port place op =>
    simp only [attempt] at h
    split at h
    case h_1 =>
      rw [← he h]
      exact .rest
    case h_2 p hp =>
      obtain ⟨p', dev, hs, hr⟩ := stepPort_carries hp h
      rw [hr]
      exact .carried hp hs
  case control c =>
    rw [← he h]
    exact .controlled c
  all_goals
    rw [← he h]
    exact .rest

-- A session whose registry is intact moves it, unless a port is made beside it.
theorem step_move {s s' : Session δ κ} {op : Op χ} {reply : Reply ρ} (i : s.registry.Intact)
    (hb : ¬op.Bypasses) (h : s.step op = some (reply, s')) : s.registry.Move s'.registry :=
  attempt_move i hb (step_eq_some.1 h).1

theorem not_halted_run {s : Session δ κ} (hh : Device.halted s.registry.dev = false)
    (ops : List (Op χ)) : Device.halted (s.run ops).registry.dev = false := by
  induction ops generalizing s
  case nil => exact hh
  case cons op ops ih =>
    simp only [run]
    split
    case h_1 h => exact ih (step_eq_some.1 h).2
    case h_2 => exact hh

-- What every move of an intact registry keeps holds after a run.
theorem run_induction {P : Registry δ κ → Prop}
    (hm : ∀ r r', r.Intact → r.Move r' → P r → P r') {s : Session δ κ} {ops : List (Op χ)}
    (hb : ∀ op ∈ ops, ¬op.Bypasses) (i : s.registry.Intact) (hp : P s.registry) :
    (s.run ops).registry.Intact ∧ P (s.run ops).registry := by
  induction ops generalizing s
  case nil => exact ⟨i, hp⟩
  case cons op ops ih =>
    simp only [run]
    split
    case h_2 => exact ⟨i, hp⟩
    case h_1 s' h =>
      have m := step_move i (hb op List.mem_cons_self) h
      exact ih (fun op ho => hb op (List.mem_cons_of_mem _ ho)) (m.intact i) (hm _ _ i m hp)

theorem intact_run {s : Session δ κ} {ops : List (Op χ)} (hb : ∀ op ∈ ops, ¬op.Bypasses)
    (i : s.registry.Intact) : (s.run ops).registry.Intact :=
  (run_induction (P := fun _ => True) (fun _ _ _ _ h => h) hb i trivial).1

-- What is proved of all runs of all ports holds of each port of a session.
theorem ran_run (dev : δ) {ops : List (Op χ)} (hb : ∀ op ∈ ops, ¬op.Bypasses) :
    ∀ p ∈ ((ofDevice dev).run ops).registry.ports, Port.Ran δ p :=
  (run_induction (P := fun r => ∀ p ∈ r.ports, Port.Ran δ p) (fun _ _ _ m h => m.ran h) hb
    (Registry.intact_ofDevice dev) (by simp [ofDevice, Registry.ofDevice])).2

-- What moves keep of a registry where each port has the address of its id holds after a run.
theorem titled_induction {P : Registry δ κ → Prop}
    (hm : ∀ r r', r.Intact → (∀ p ∈ r.ports, p.Titled) → r.Move r' → P r → P r')
    {s : Session δ κ} {ops : List (Op χ)} (hb : ∀ op ∈ ops, ¬op.Bypasses) (i : s.registry.Intact)
    (hr : ∀ p ∈ s.registry.ports, Port.Ran δ p) (hp : P s.registry) : P (s.run ops).registry := by
  have step (r r' : Registry δ κ) (i : r.Intact) (m : r.Move r')
      (h : (∀ p ∈ r.ports, Port.Ran δ p) ∧ P r) : (∀ p ∈ r'.ports, Port.Ran δ p) ∧ P r' :=
    ⟨m.ran h.1, hm r r' i (fun p hp => (h.1 p hp).titled) m h.2⟩
  exact (run_induction step hb i ⟨hr, hp⟩).2.2

theorem closed_run {s : Session δ κ} {ops : List (Op χ)} (hb : ∀ op ∈ ops, ¬op.Bypasses)
    (i : s.registry.Intact) {place : Nat} {p : Port κ} (hp : s.registry.ports[place]? = some p)
    (hc : p.phase = .closed) :
    ∃ p', (s.run ops).registry.ports[place]? = some p' ∧ p'.phase = .closed ∧ p'.handles = [] := by
  have ⟨i, p', hp, hc⟩ := run_induction
    (P := fun r => ∃ p' : Port κ, r.ports[place]? = some p' ∧ p'.phase = .closed)
    (fun _ _ _ m ⟨_, hp, hc⟩ => m.closed hp hc) hb i ⟨p, hp, hc⟩
  exact ⟨p', hp, hc, (i.sound p' (List.mem_of_getElem? hp)).closed hc⟩

end Session

end TapPort
