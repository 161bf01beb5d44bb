import TapPort.Proofs.Registry.Ids
import TapPort.Proofs.Session.Moves

namespace TapPort

variable {κ δ χ ρ : Type} [Device δ κ] [Controlled δ χ ρ]

namespace Registry

variable {r r' : Registry δ κ} {place : Nat}

-- That the port in a place is registered, with the least id that was free before.
def Registers (r : Registry δ κ) (place : Nat) (r' : Registry δ κ) : Prop :=
  ∃ p, r'.ports[place]? = some p ∧ p ∈ r'.registered ∧ p.id ∉ r.ids ∧ ∀ id < p.id, id ∈ r.ids

omit [Controlled δ χ ρ] in
theorem registers_of_probe {name : String} {args : PortArgs}
    (h : r.probe name args = (.ok place, r')) : r.Registers place r' := by
  have hp := r.probe_probing name args
  rw [h] at hp
  cases hp
  case made p dev _ hl m =>
    have ⟨hn, hb⟩ := lowestFreeId_some hl
    have hg : (r.ports ++ [p])[r.ports.length]? = some p := List.getElem?_concat_length
    refine ⟨p, hg, ?_, m.title.2.1 ▸ hn, m.title.2.1 ▸ hb⟩
    exact mem_registered.2 ⟨_, mem_insert.2 (.inl rfl), hg⟩

omit [Controlled δ χ ρ] in
theorem registers_of_probeText {name text : String}
    (h : r.probeText name text = (.ok place, r')) : r.Registers place r' := by
  simp only [probeText] at h
  split at h
  case h_1 => cases h
  case h_2 => exact registers_of_probe h

end Registry

namespace Session

variable {ops : List (Op χ)}

theorem nodup_ids_run (dev : δ) (hb : ∀ op ∈ ops, ¬op.Bypasses) :
    ((ofDevice dev).run ops).registry.ids.Nodup :=
  titled_induction (P := fun r => r.ids.Nodup) (fun _ _ i ht m h => m.nodup_ids i ht h) hb
    (Registry.intact_ofDevice dev) (List.forall_mem_nil _) .nil

-- What a port is to others it is in every later state.
theorem title_run {s : Session δ κ} (hb : ∀ op ∈ ops, ¬op.Bypasses) (i : s.registry.Intact)
    (hr : ∀ p ∈ s.registry.ports, Port.Ran δ p) {place : Nat} {p : Port κ}
    (hp : s.registry.ports[place]? = some p) :
    ∃ p', (s.run ops).registry.ports[place]? = some p' ∧ p.SameTitle p' := by
  have step (r r' : Registry δ κ) (_ : r.Intact) (ht : ∀ p ∈ r.ports, p.Titled) (m : r.Move r')
      (h : ∃ p', r.ports[place]? = some p' ∧ p.SameTitle p') :
      ∃ p', r'.ports[place]? = some p' ∧ p.SameTitle p' := by
    have ⟨p₁, hp₁, t₁⟩ := h
    have ⟨p₂, hp₂, t₂⟩ := m.title ht hp₁
    exact ⟨p₂, hp₂, t₁.trans t₂⟩
  exact titled_induction step hb i hr ⟨p, hp, .refl p⟩

-- Registered ports have different ids. A walk through these in ascending order finds the least one
-- that is free, which the next port gets; there is none left just if all are in use. In every later
-- state a port has the id that it has, and the address that is made from it.
theorem ids_of_run (dev : δ) (hb : ∀ op ∈ ops, ¬op.Bypasses) :
    let s := (ofDevice dev).run ops
    let r := s.registry
    r.ids.Nodup ∧ (r.lowestFreeId = none ↔ ∀ id, id ∈ r.ids) ∧
      (∀ l, l.Perm r.ids → l.Pairwise (· ≤ ·) → r.lowestFreeId = Registry.firstGap 0 l) ∧
      (∀ name args place r', r.probe name args = (.ok place, r') → r.Registers place r') ∧
      (∀ name text place r', r.probeText name text = (.ok place, r') → r.Registers place r') ∧
      ∀ (place : Nat) (p : Port κ), r.ports[place]? = some p →
        p.mac = Address.app p.id p.numaNode ∧
        ∀ ops', (∀ op ∈ ops', ¬op.Bypasses) → ∃ p', (s.run ops').registry.ports[place]? = some p' ∧
          p'.id = p.id ∧ p'.mac = p.mac := by
  intro s r
  have hn : r.ids.Nodup := nodup_ids_run dev hb
  refine ⟨hn, Registry.lowestFreeId_eq_none, ?_, ?_, ?_, ?_⟩
  case refine_1 => exact fun l hp hs => Registry.lowestFreeId_eq_firstGap hn hp hs
  case refine_2 => exact fun _ _ _ _ h => Registry.registers_of_probe h
  case refine_3 => exact fun _ _ _ _ h => Registry.registers_of_probeText h
  case refine_4 =>
    intro place p hp
    refine ⟨(ran_run dev hb p (List.mem_of_getElem? hp)).titled, ?_⟩
    intro ops' hb'
    have i : r.Intact := intact_run hb (Registry.intact_ofDevice dev)
    have ⟨p', hp', t⟩ := title_run hb' i (ran_run dev hb) hp
    exact ⟨p', hp', t.id, t.mac⟩

-- Of three ports the one with id 1 is removed, and the next port has that id.
theorem ids_of_run_reused :
    let ops : List (Op MemoryTap.Control) :=
      [.probe "a" .default, .probe "b" .default, .probe "c" .default, .remove "b"]
    let r := ((ofDevice MemoryTap.default).run ops).registry
    (∀ op ∈ ops, ¬op.Bypasses) ∧ r.ids = [0, 2] ∧
      ∃ p r', r.probe "d" .default = (.ok 3, r') ∧ r'.ports[3]? = some p ∧ p.id = 1 := by
  intro ops r
  have hb : ∀ op ∈ ops, ¬op.Bypasses := by simp [ops, Op.Bypasses]
  have hi : r.ids = [0, 2] := by decide +kernel
  have ho : (r.probe "d" .default).1 = .ok 3 := by decide +kernel
  have hr : r.probe "d" .default = (.ok 3, (r.probe "d" .default).2) := Prod.ext ho rfl
  have ⟨_, _, _, hp, _⟩ := ids_of_run MemoryTap.default hb
  have ⟨p, hp, _, hn, hl⟩ := hp "d" .default 3 _ hr
  refine ⟨hb, hi, p, _, hr, hp, ?_⟩
  simp only [r] at hn hl hi
  rw [hi] at hn hl
  apply Std.le_antisymm
  case hab => exact Std.not_lt.1 fun h => absurd (hl 1 h) (by decide)
  case hba =>
    have hz : p.id ≠ 0 := fun he => hn (he ▸ List.mem_cons_self)
    have hz : p.id.toNat ≠ 0 := fun he => hz (UInt16.toNat_inj.1 he)
    exact UInt16.le_iff_toNat_le.2 (Nat.pos_of_ne_zero hz)

end Session

end TapPort
