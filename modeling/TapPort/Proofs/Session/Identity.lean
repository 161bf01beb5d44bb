import TapPort.Proofs.Port.Identity
import TapPort.Proofs.Session.Held

namespace TapPort

namespace Registry

variable {r r' : Registry MemoryTap Nat}

-- That ports with open queues know the index of the interface, which has one.
structure Known (r : Registry MemoryTap Nat) : Prop where
  serves : r.dev.Serves r.held
  indexed : r.dev.Indexed
  index : ∀ p ∈ r.ports, p.handles ≠ [] → p.ifIndex = UInt32.ofNat r.dev.index

theorem held_ne_nil {ps : List (Port Nat)} {p : Port Nat} (hp : p ∈ ps) (hn : p.handles ≠ []) :
    ps.flatMap Port.handles ≠ [] := by
  intro hz
  exact hn (List.flatMap_eq_nil_iff.1 hz p hp)

theorem mem_set {ps : List (Port Nat)} {place : Nat} {p p' q : Port Nat}
    (hp : ps[place]? = some p) (hq : q ∈ ps.set place p') : q = p' ∨ q ∈ ps.eraseIdx place := by
  have hl := (List.getElem?_eq_some_iff.1 hp).1
  exact List.mem_cons.1 ((List.set_perm_cons_eraseIdx hl p').mem_iff.1 hq)

namespace Known

theorem carry (k : r.Known) {place : Nat} {p p' : Port Nat} {dev : MemoryTap}
    (hp : r.ports[place]? = some p) (t : Port.Steps p r.dev p' dev) :
    ∀ q ∈ r.ports.set place p', q.handles ≠ [] → q.ifIndex = UInt32.ofNat dev.index := by
  intro q hq hn
  have s := MemoryTap.custody_serves.perm (held_perm hp) k.serves
  obtain ⟨hi, hr⟩ := t.index s (k.index p (List.mem_of_getElem? hp))
  cases mem_set hp hq
  case inl he => exact he ▸ hi (he ▸ hn)
  case inr hm =>
    rw [hr (held_ne_nil hm hn)]
    exact k.index q (List.mem_of_mem_eraseIdx hm) hn

theorem move (k : r.Known) (m : r.Move r') : r'.Known where
  serves := MemoryTap.custody_serves.move (fun c _ _ s => s.control c) m k.serves
  indexed := MemoryTap.custody_indexed.move (fun c _ _ i => i.control c) m k.indexed
  index := by
    cases m
    case rest => exact k.index
    case failed m =>
      intro p hp hn
      rw [(m.same k.serves (held_ne_nil hp hn)).index]
      exact k.index p hp hn
    case made m =>
      intro p hp hn
      obtain ⟨hi, -, hr⟩ := m.identified k.serves
      cases List.mem_append.1 hp
      case inl hp =>
        rw [hr (held_ne_nil hp hn)]
        exact k.index p hp hn
      case inr hp => exact List.mem_singleton.1 hp ▸ hi
    case carried hp t => exact k.carry hp t
    case removed hp hs => exact k.carry hp (Port.Steps.refl.shutdown hs)
    case controlled c =>
      intro p hp hn
      exact (k.index p hp hn).trans (congrArg _ (MemoryTap.same_control c).index.symm)

end Known

theorem known_ofFeatures (features : TunFlags) :
    (ofDevice (MemoryTap.ofFeatures features) : Registry MemoryTap Nat).Known where
  serves := MemoryTap.serves_ofFeatures features
  indexed := MemoryTap.indexed_ofFeatures features
  index := by simp [ofDevice]

-- That the interface has the address that belongs to whichever port has an open queue.
def Addressed (r : Registry MemoryTap Nat) : Prop :=
  ∀ p ∈ r.ports, p.handles ≠ [] → p.Addressed r.dev

theorem Intact.length_registered (i : r.Intact) : r.registered.length = r.names.length := by
  rw [registered, List.filterMap_length_eq_length]
  intro e he
  simp [List.getElem?_eq_getElem (i.bounded e he)]

theorem Intact.mem_places (i : r.Intact) {place : Nat} {p : Port Nat}
    (hp : r.ports[place]? = some p) (hn : p.handles ≠ []) : place ∈ r.names.map (·.2) := by
  by_contra hm
  exact hn ((i.sound p (List.mem_of_getElem? hp)).closed (i.retired place p hp hm))

-- Where no more than one port is registered, all others than one with an open queue are closed.
theorem Intact.closed_of_other (i : r.Intact) (hl : r.registered.length ≤ 1) {place : Nat}
    {p q : Port Nat} (hp : r.ports[place]? = some p) (hq : q ∈ r.ports.eraseIdx place)
    (hn : q.handles ≠ []) : p.phase = .closed := by
  obtain ⟨j, hj, hq⟩ := List.mem_eraseIdx_iff_getElem?.1 hq
  rw [i.length_registered, ← List.length_map (·.2)] at hl
  refine i.retired place p hp ?_
  intro hm
  have hm' := i.mem_places hq hn
  obtain ⟨e, he⟩ := List.length_eq_one_iff.1 (hl.antisymm (List.length_pos_of_mem hm))
  rw [he, List.mem_singleton] at hm hm'
  exact hj (hm'.trans hm.symm)

theorem Intact.addressed_carry (i : r.Intact) (k : r.Known) (hl : r.registered.length ≤ 1)
    (ha : r.Addressed) {place : Nat} {p p' : Port Nat} {dev : MemoryTap}
    (hp : r.ports[place]? = some p) (t : Port.Steps p r.dev p' dev) :
    ∀ q ∈ r.ports.set place p', q.handles ≠ [] → q.Addressed dev := by
  intro q hq hn
  have hm := List.mem_of_getElem? hp
  have s := MemoryTap.custody_serves.perm (Registry.held_perm hp) k.serves
  cases mem_set hp hq
  case inl he => exact he ▸ t.address s (ha p hm) (he ▸ hn)
  case inr hq =>
    have hc := i.closed_of_other hl hp hq hn
    have hs := t.same_of_closed s (i.sound p hm) hc (held_ne_nil hq hn)
    exact (ha q (List.mem_of_mem_eraseIdx hq) hn).congr hs.address

theorem Move.addressed (m : r.Move r') (i : r.Intact) (k : r.Known)
    (hl : r.registered.length ≤ 1) (hl' : r'.registered.length ≤ 1) (ha : r.Addressed) :
    r'.Addressed := by
  rw [(m.intact i).length_registered] at hl'
  cases m
  case rest => exact ha
  case failed m =>
    intro p hp hn
    exact (ha p hp hn).congr (m.same k.serves (held_ne_nil hp hn)).address
  case made m =>
    -- The new port is the only one that is registered.
    have hz : r.names = [] := by
      rw [(perm_insert ..).length_eq, List.length_cons] at hl'
      exact List.length_eq_zero_iff.1 (by omega)
    intro p hp hn
    cases List.mem_append.1 hp
    case inl hp =>
      obtain ⟨j, hj⟩ := List.mem_iff_getElem?.1 hp
      have hm := i.mem_places hj hn
      simp [hz] at hm
    case inr hp =>
      obtain ⟨-, ha, -⟩ := m.identified k.serves
      exact List.mem_singleton.1 hp ▸ ha
  case carried hp t => exact i.addressed_carry k hl ha hp t
  case removed hp hs => exact i.addressed_carry k hl ha hp (Port.Steps.refl.shutdown hs)
  case controlled c =>
    intro p hp hn
    exact (ha p hp hn).congr (MemoryTap.same_control c).address

end Registry

namespace Session

variable {s : Session MemoryTap Nat} {ops : List (Op MemoryTap.Control)}

-- That no more than one port is registered at any time of a run.
def Single (s : Session MemoryTap Nat) (ops : List (Op MemoryTap.Control)) : Prop :=
  ∀ ops', ops' <+: ops → (s.run ops').registry.registered.length ≤ 1

theorem addressed_run (hb : ∀ op ∈ ops, ¬op.Bypasses) (i : s.registry.Intact)
    (k : s.registry.Known) (hl : s.Single ops) (ha : s.registry.Addressed) :
    (s.run ops).registry.Addressed := by
  induction ops generalizing s
  case nil => exact ha
  case cons op ops ih =>
    simp only [run]
    split
    case h_2 => exact ha
    case h_1 s' h =>
      have m := step_move i (hb op List.mem_cons_self) h
      have hl' : s'.Single ops := by
        intro ops' hp
        have hr := hl (op :: ops') (List.prefix_cons_inj op |>.2 hp)
        simpa only [run, h] using hr
      have h0 := hl [] List.nil_prefix
      have h1 := hl' [] List.nil_prefix
      exact ih (fun op ho => hb op (List.mem_cons_of_mem _ ho)) (m.intact i) (k.move m) hl'
        (m.addressed i k h0 h1 ha)

-- As far as indices are given in order, each port with an open queue gives the index of the
-- interface to whoever asks. Whenever a port opens its first queue the interface gets the address
-- of that port, so that the one it has belongs to the port that uses it as long as there are no two
-- of them.
theorem identity_of_run (features : TunFlags) (ops : List (Op MemoryTap.Control))
    (hb : ∀ op ∈ ops, ¬op.Bypasses) :
    let s := ofDevice (MemoryTap.ofFeatures features)
    let r := (s.run ops).registry
    r.dev.nextIndex < UInt32.size ∧
      (∀ p ∈ r.ports, 0 < p.openCount →
        r.dev.index ≠ 0 ∧ p.ifIndex.toNat = r.dev.index ∧ p.info.ifIndex.toNat = r.dev.index ∧
          p.devInfo.ifIndex.toNat = r.dev.index) ∧
      (s.Single ops → ∀ p ∈ r.ports, 0 < p.openCount →
        r.dev.address = Address.host p.id p.numaNode ∧ p.mac = Address.app p.id p.numaNode) := by
  intro s r
  have i : s.registry.Intact := Registry.intact_ofDevice _
  have k : s.registry.Known := Registry.known_ofFeatures features
  have hf := (MemoryTap.fits_iff.1 (fits_run features ops)).2.1
  refine ⟨hf, ?_, ?_⟩
  case refine_1 =>
    intro p hp ho
    have kr : r.Known := (run_induction (fun _ _ _ m k => k.move m) hb i k).2
    have hn := Port.openCount_pos.1 ho
    obtain ⟨h0, hl⟩ := kr.indexed.current (kr.serves.rings_ne_nil.2 (Registry.held_ne_nil hp hn))
    have hx : p.ifIndex.toNat = r.dev.index := by
      rw [kr.index p hp hn]
      exact UInt32.toNat_ofNat_of_lt' (hl.trans hf)
    exact ⟨Nat.pos_iff_ne_zero.1 h0, hx, hx, hx⟩
  case refine_2 =>
    intro hs p hp ho
    have ha : s.registry.Addressed := by simp [s, Registry.Addressed, ofDevice, Registry.ofDevice]
    exact addressed_run hb i k hs ha p hp (Port.openCount_pos.1 ho)

-- An interface is lost with its last queue and made again under another index, after an attempt at
-- it fails for the address.
theorem identity_of_run_recreated :
    let ops : List (Op MemoryTap.Control) :=
      [.probe "a" ⟨none, Link.defaultSpeed, 1, 3⟩, .port 0 (.releaseTx 0),
        .control (.failAddress true), .port 0 (.setUpTx 0), .control (.failAddress false),
        .port 0 (.setUpTx 0)]
    let s := ofDevice (MemoryTap.ofFeatures MemoryTap.defaultFeatures)
    let r := (s.run ops).registry
    (∀ op ∈ ops, ¬op.Bypasses) ∧ s.Single ops ∧ r.dev.index = 9 ∧ r.ports.length = 1 ∧
      ∀ p ∈ r.ports, p.openCount = 1 ∧ p.info.ifIndex.toNat = 9 ∧ p.mac = Address.app p.id 3 := by
  intro ops s r
  have hb : ∀ op ∈ ops, ¬op.Bypasses := by simp [ops, Op.Bypasses]
  have hs : s.Single ops := by
    have hd : ∀ ops' ∈ ops.inits, (s.run ops').registry.registered.length ≤ 1 := by decide
    exact fun ops' hp => hd ops' ((List.mem_inits ops' ops).2 hp)
  have hx : r.dev.index = 9 := by decide
  have hl : r.ports.length = 1 := by decide
  have ho : ∀ p ∈ r.ports, p.openCount = 1 ∧ p.numaNode = 3 := by decide
  obtain ⟨_, hi, ha⟩ := identity_of_run MemoryTap.defaultFeatures ops hb
  refine ⟨hb, hs, hx, hl, ?_⟩
  simp only [r, s] at hs hx ho ⊢
  intro p hp
  obtain ⟨h1, hn⟩ := ho p hp
  have h0 : 0 < p.openCount := h1 ▸ Nat.one_pos
  rw [← hx, ← hn]
  exact ⟨h1, (hi p hp h0).2.2.1, (ha hs p hp h0).2⟩

end Session

end TapPort
