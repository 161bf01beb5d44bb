import TapPort.Proofs.Device.Journaled
import TapPort.Proofs.Registry.Interfaces
import TapPort.Proofs.Registry.Registered
import TapPort.Proofs.Session.Held
import TapPort.Proofs.Session.Hom

namespace TapPort

variable {κ δ χ ρ : Type} [Device δ κ] [Controlled δ χ ρ]

namespace Registry

section Unit

variable {r : Registry δ κ}

theorem generated_append (as bs : List PortArgs) :
    generated (as ++ bs) = generated as + generated bs :=
  List.countP_append

omit [Device δ κ] [Controlled δ χ ρ] in
theorem interfaceFor_eq (r : Registry δ κ) (args : PortArgs) :
    r.interfaceFor args =
      (args.iface.getD (generatedName ++ toString r.unit),
        r.unit + UInt32.ofNat (generated [args])) := by
  simp only [interfaceFor]
  cases h : args.iface <;> simp [generated, h]

omit [Controlled δ χ ρ] in
-- The number in the next name counts the names that were generated for ports.
theorem unit_after (r : Registry δ κ) (c : Call δ) :
    (r.after c).unit = r.unit + UInt32.ofNat (generated (r.granted? c).toList) := by
  cases h : r.granted? c
  case none => exact (after_of_not_granted h).2.trans (UInt32.add_zero _).symm
  case some args =>
    have ⟨name, id, p, dev, _, ha⟩ := after_of_granted h
    rw [ha, interfaceFor_eq]
    rfl

end Unit

section Names

variable {name : String} {place : Nat} {l : List (String × Nat)}

theorem lookup_insert (hn : ∀ e ∈ l, e.1 ≠ name) :
    (insert name place l).lookup name = some place := by
  induction l
  case nil => simp [insert]
  case cons e l ih =>
    cases e
    case mk n p =>
      have hb : (name == n) = false := beq_eq_false_iff_ne.2 (hn _ List.mem_cons_self).symm
      have hl := ih fun e he => hn e (List.mem_cons_of_mem _ he)
      simp only [insert]
      split
      case isTrue => simp
      case isFalse => simp [List.lookup_cons, hb, hl]

end Names

-- That a registry is as it was, with the same queues open.
structure Untouched (r r' : Registry (Journaled δ κ) κ) : Prop where
  ports : r'.ports = r.ports
  names : r'.names = r.names
  unit : r'.unit = r.unit
  attached : ∃ entries, r'.dev.journal = r.dev.journal ++ entries ∧ Journaled.Vain entries

-- That one port was added, under a name that no other registered port has, and that one queue was
-- asked for, of this interface, which the port has got.
structure Adds (r : Registry (Journaled δ κ) κ) (name iface : String) (place : Nat)
    (r' : Registry (Journaled δ κ) κ) : Prop where
  last : place = r.ports.length
  fresh : ∀ q ∈ r.registered, q.name ≠ name
  added : ∃ p, r'.ports = r.ports ++ [p] ∧ p.name = name ∧ r'.get? name = some p ∧
    r'.registered.Perm (p :: r.registered) ∧
    ∃ h, p.handles = [h] ∧ r'.dev.journal = r.dev.journal ++ [.asked (some iface) (some h)]

section Probe

variable {r r' : Registry (Journaled δ κ) κ} {name : String} {args : PortArgs}

omit [Controlled δ χ ρ] in
theorem untouched_of_probe {e : Error} (h : r.probe name args = (.error e, r')) :
    r.Untouched r' := by
  have hp := r.probe_probing name args
  rw [h] at hp
  cases hp
  case refused => exact ⟨rfl, rfl, rfl, [], (List.append_nil _).symm, .none⟩
  case failed m => exact ⟨rfl, rfl, rfl, Journaled.making_error m⟩

omit [Controlled δ χ ρ] in
theorem untouched_of_probeText {text : String} {e : Error}
    (h : r.probeText name text = (.error e, r')) : r.Untouched r' := by
  simp only [probeText] at h
  split at h
  case h_1 =>
    cases h
    exact ⟨rfl, rfl, rfl, [], (List.append_nil _).symm, .none⟩
  case h_2 => exact untouched_of_probe h

omit [Controlled δ χ ρ] in
theorem adds_of_probe {place : Nat} (i : r.Intact) (n : r.Named)
    (h : r.probe name args = (.ok place, r')) :
    r.Adds name (args.iface.getD (generatedName ++ toString r.unit)) place r' ∧
      r'.unit = r.unit + UInt32.ofNat (generated [args]) := by
  have hp := r.probe_probing name args
  rw [h] at hp
  cases hp
  case made p dev hn _ m =>
    rw [interfaceFor_eq] at m ⊢
    refine ⟨⟨rfl, ?_, p, rfl, m.title.1, ?_, ?_, Journaled.making_ok m⟩, rfl⟩
    case refine_1 =>
      intro q hq he
      have hm : name ∈ r.registered.map Port.name := List.mem_map.2 ⟨q, hq, he⟩
      rw [n.registered_names] at hm
      have ⟨e, hm, he⟩ := List.mem_map.1 hm
      exact hn e hm he
    case refine_2 =>
      rw [get?, lookup_insert hn]
      exact List.getElem?_concat_length
    case refine_3 => exact registered_made i.bounded ..

end Probe

end Registry

namespace Session

variable {s s' : Session δ κ} {ops : List (Op χ)}

-- The arguments of the port that a step registers, if it does.
def granted? (s : Session δ κ) : Op χ → Option PortArgs
  | .probe name args => s.registry.granted? ⟨.probe name args, s.registry.dev⟩
  | .probeText name text =>
    match PortArgs.parse text with
    | .ok args => s.registry.granted? ⟨.probe name args, s.registry.dev⟩
    | .error _ => none
  | _ => none

-- The arguments of all ports that steps register, the earliest first.
def granted (s : Session δ κ) : List (Op χ) → List PortArgs
  | [] => []
  | op :: rest =>
    match s.step op with
    | some (_, s') => (s.granted? op).toList ++ granted s' rest
    | none => []

theorem unit_attempt {op : Op χ} {reply : Reply ρ} (h : s.attempt op = some (reply, s')) :
    s'.registry.unit =
      s.registry.unit + UInt32.ofNat (Registry.generated (s.granted? op).toList) := by
  have rest : s.registry.unit = s.registry.unit + UInt32.ofNat (Registry.generated []) :=
    (UInt32.add_zero _).symm
  have he {r : Reply ρ × Session δ κ} (hr : some r = some (reply, s')) :
      r.2.registry = s'.registry :=
    congrArg (·.2.registry) (Option.some.inj hr)
  cases op
  case probe name args =>
    rw [← he h, registry_afterMaking]
    exact s.registry.unit_after ⟨.probe name args, s.registry.dev⟩
  case probeText name text =>
    rw [← he h, registry_afterMaking, Registry.probeText, granted?]
    cases PortArgs.parse text
    case error => exact rest
    case ok args => exact s.registry.unit_after ⟨.probe name args, s.registry.dev⟩
  case create name iface id args =>
    rw [← he h, registry_afterMaking, Registry.create]
    split <;> exact rest
  case remove name =>
    rw [← he h]
    exact (Registry.unit_remove ..).trans rest
  case port place op =>
    simp only [attempt] at h
    split at h
    case h_1 =>
      rw [← he h]
      exact rest
    case h_2 hp =>
      obtain ⟨_, _, _, hr⟩ := stepPort_carries hp h
      rw [hr]
      exact rest
  all_goals
    rw [← he h]
    exact rest

theorem unit_run (s : Session δ κ) (ops : List (Op χ)) :
    (s.run ops).registry.unit =
      s.registry.unit + UInt32.ofNat (Registry.generated (s.granted ops)) := by
  induction ops generalizing s
  case nil => exact (UInt32.add_zero _).symm
  case cons op ops ih =>
    simp only [run, granted]
    cases h : s.step op
    case none => exact (UInt32.add_zero _).symm
    case some =>
      simp only [ih, unit_attempt (step_eq_some.1 h).1, Registry.generated_append,
        UInt32.ofNat_add, UInt32.add_assoc]

theorem named_run (dev : δ) (hb : ∀ op ∈ ops, ¬op.Bypasses) :
    ((ofDevice dev).run ops).registry.Named :=
  titled_induction (fun _ _ _ ht m n => m.named ht n) hb (Registry.intact_ofDevice dev)
    (List.forall_mem_nil _) (List.forall_mem_nil _)

-- A session on a device that keeps a journal goes as one on the device alone. There, whatever
-- happened before, a probe that fails touches nothing, and one that succeeds adds a port; the
-- number in the name of the interface that is asked for, where none is called for, is how many such
-- probes succeeded before, until it goes round.
theorem probes_of_run (dev : δ) (hb : ∀ op ∈ ops, ¬op.Bypasses) :
    let s := (ofDevice dev).run ops
    let t := (ofDevice (Journaled.ofDevice dev)).run ops
    let r := t.registry
    let k := Registry.generated ((ofDevice dev).granted ops)
    t.map Journaled.dev = s ∧ (r.registered.map Port.name).Pairwise (· < ·) ∧
      r.unit = UInt32.ofNat k ∧ (k < UInt32.size → toString r.unit = toString k) ∧
      (∀ name args e r', r.probe name args = (.error e, r') → r.Untouched r') ∧
      (∀ name text e r', r.probeText name text = (.error e, r') → r.Untouched r') ∧
      (∀ name args place r', r.probe name args = (.ok place, r') →
        r.Adds name (args.iface.getD (Registry.generatedName ++ toString r.unit)) place r' ∧
          r'.unit = UInt32.ofNat (k + Registry.generated [args])) ∧
      ∀ name text place r', r.probeText name text = (.ok place, r') →
        ∃ args, PortArgs.parse text = .ok args ∧ r.probe name args = (.ok place, r') := by
  intro s t r k
  have hs : t.map Journaled.dev = s := (Journaled.hom_dev.run _ (fun _ _ => rfl) ops).symm
  have hu : r.unit = UInt32.ofNat k := by
    have hu : s.registry.unit = 0 + UInt32.ofNat k := unit_run ..
    rw [← hs, UInt32.zero_add] at hu
    exact hu
  have i : r.Intact := intact_run hb (Registry.intact_ofDevice _)
  have n : r.Named := named_run _ hb
  refine ⟨hs, i.sorted_registered n, hu, ?_, ?_, ?_, ?_, ?_⟩
  case refine_1 =>
    intro hk
    rw [hu, Registry.toString_unit hk]
  case refine_2 => exact fun _ _ _ _ h => Registry.untouched_of_probe h
  case refine_3 => exact fun _ _ _ _ h => Registry.untouched_of_probeText h
  case refine_4 =>
    intro name args place r' h
    have ⟨ha, hn⟩ := Registry.adds_of_probe i n h
    exact ⟨ha, by rw [hn, hu, UInt32.ofNat_add]⟩
  case refine_5 =>
    intro name text place r' h
    simp only [Registry.probeText] at h
    split at h
    case h_1 => cases h
    case h_2 args ha => exact ⟨args, ha, h⟩

-- After a probe that failed for the address and one with an interface of its own, the second
-- generated name follows the first.
theorem probes_of_run_failed :
    let ops : List (Op MemoryTap.Control) :=
      [.probe "b" .default, .control (.failAddress true), .probe "c" .default,
        .control (.failAddress false), .probe "a" (Registry.ofInterface "eth0"), .remove "a"]
    let r : Registry (Journaled MemoryTap Nat) Nat :=
      ((ofDevice (Journaled.ofDevice MemoryTap.default)).run ops).registry
    (∀ op ∈ ops, ¬op.Bypasses) ∧ ((ofDevice MemoryTap.default).granted ops).length = 2 ∧
      ∃ r', r.probe "d" .default = (.ok 2, r') ∧ r.Adds "d" "dtap1" 2 r' := by
  intro ops r
  have hb : ∀ op ∈ ops, ¬op.Bypasses := by simp [ops, Op.Bypasses]
  have hl : ((ofDevice MemoryTap.default).granted ops).length = 2 := by decide +kernel
  have hk : Registry.generated ((ofDevice MemoryTap.default).granted ops) = 1 := by decide +kernel
  have ho : (r.probe "d" .default).1 = .ok 2 := by decide +kernel
  have hr : r.probe "d" .default = (.ok 2, (r.probe "d" .default).2) := Prod.ext ho rfl
  have ⟨_, _, _, hu, _, _, ha, _⟩ := probes_of_run MemoryTap.default hb
  rw [hk] at hu
  have ha := (ha "d" .default 2 _ hr).1
  rw [hu (by decide)] at ha
  exact ⟨hb, hl, _, hr, ha⟩

end Session

end TapPort
