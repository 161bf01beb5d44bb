import TapPort.Proofs.Device.Memory
import TapPort.Proofs.Session.Moves

namespace TapPort

variable {κ δ χ ρ : Type} [Device δ κ] [Controlled δ χ ρ]

namespace Registry

variable {r r' : Registry δ κ}

def held (r : Registry δ κ) : List κ := r.ports.flatMap Port.handles

omit [Device δ κ] in
theorem held_set {place : Nat} (hl : place < r.ports.length) (p : Port κ) :
    ((r.ports.set place p).flatMap Port.handles).Perm
      (p.handles ++ (r.ports.eraseIdx place).flatMap Port.handles) :=
  (List.set_perm_cons_eraseIdx hl p).flatMap_right Port.handles

omit [Device δ κ] in
theorem held_perm {place : Nat} {p : Port κ} (hp : r.ports[place]? = some p) :
    r.held.Perm (p.handles ++ (r.ports.eraseIdx place).flatMap Port.handles) := by
  obtain ⟨hl, rfl⟩ := List.getElem?_eq_some_iff.1 hp
  have hs := held_set hl r.ports[place]
  rwa [List.set_getElem_self] at hs

end Registry

namespace Custody

variable {Holds : δ → List κ → Prop} {r r' : Registry δ κ}

theorem carry (c : Custody Holds) {place : Nat} {p p' : Port κ} {dev : δ}
    (hp : r.ports[place]? = some p) (s : Port.Steps p r.dev p' dev) (hd : Holds r.dev r.held) :
    Holds dev ((r.ports.set place p').flatMap Port.handles) := by
  replace hd := c.steps s (c.perm (Registry.held_perm hp) hd)
  have hl := (List.getElem?_eq_some_iff.1 hp).1
  exact c.perm (Registry.held_set hl p').symm hd

theorem move (c : Custody Holds)
    (hc : ∀ (x : χ) (d : δ) (hs : List κ), Holds d hs → Holds (Controlled.control x d).2 hs)
    (m : r.Move r') (hd : Holds r.dev r.held) : Holds r'.dev r'.held := by
  cases m
  case rest => exact hd
  case failed m => exact c.making_error m hd
  case made m =>
    replace hd := c.making_ok m hd
    rw [Registry.held, List.flatMap_append, List.flatMap_singleton]
    exact c.perm List.perm_append_comm hd
  case carried hp s => exact c.carry hp s hd
  case removed hp hs => exact c.carry hp (Port.Steps.refl.shutdown hs) hd
  case controlled x => exact hc x _ _ hd

theorem run (c : Custody Holds)
    (hc : ∀ (x : χ) (d : δ) (hs : List κ), Holds d hs → Holds (Controlled.control x d).2 hs)
    {s : Session δ κ} {ops : List (Session.Op χ)} (hb : ∀ op ∈ ops, ¬op.Bypasses)
    (i : s.registry.Intact) (hd : Holds s.registry.dev s.registry.held) :
    Holds (s.run ops).registry.dev (s.run ops).registry.held :=
  (Session.run_induction (fun _ _ _ m hd => c.move hc m hd) hb i hd).2

end Custody

theorem Session.fits_run (features : TunFlags) (ops : List (Session.Op MemoryTap.Control)) :
    ((ofDevice (MemoryTap.ofFeatures features)).run ops).registry.dev.fits = true :=
  MemoryTap.not_halted_iff.1 (not_halted_run rfl ops)

namespace Registry

section Registered

variable {r : Registry δ κ}

-- The descriptors of the port in a place, if there is one.
def handlesAt (ps : List (Port κ)) (place : Nat) : List κ := (ps[place]?.map Port.handles).getD []

omit [Device δ κ] in
theorem flatMap_range (ps : List (Port κ)) :
    (List.range ps.length).flatMap (handlesAt ps) = ps.flatMap Port.handles := by
  induction ps
  case nil => rfl
  case cons p ps ih =>
    rw [List.flatMap_cons, ← ih, List.length_cons, List.range_succ_eq_map, List.flatMap_cons,
      List.flatMap_map]
    simp only [handlesAt, List.getElem?_cons_zero, List.getElem?_cons_succ]
    rfl

omit [Device δ κ] in
theorem flatMap_registered :
    r.registered.flatMap Port.handles = (r.names.map (·.2)).flatMap (handlesAt r.ports) := by
  rw [registered]
  induction r.names
  case nil => rfl
  case cons e es ih =>
    rw [List.map_cons, List.flatMap_cons, ← ih, List.filterMap_cons]
    cases hp : r.ports[e.2]? <;> simp [handlesAt, hp]

omit [Device δ κ] in
theorem Intact.handlesAt_eq_nil (i : r.Intact) {place : Nat} (hn : place ∉ r.names.map (·.2)) :
    handlesAt r.ports place = [] := by
  unfold handlesAt
  cases hp : r.ports[place]?
  case none => rfl
  case some p => exact (i.sound p (List.mem_of_getElem? hp)).closed (i.retired place p hp hn)

omit [Device δ κ] in
theorem Intact.filter_perm (i : r.Intact) :
    ((List.range r.ports.length).filter (· ∈ r.names.map (·.2))).Perm (r.names.map (·.2)) := by
  refine (List.perm_ext_iff_of_nodup (List.nodup_range.filter _) i.distinct).2 ?_
  intro place
  simp only [List.mem_filter, List.mem_range, decide_eq_true_eq, and_iff_right_iff_imp]
  intro hm
  obtain ⟨e, he, rfl⟩ := List.mem_map.1 hm
  exact i.bounded e he

omit [Device δ κ] in
-- Ports that are not registered hold no descriptor, and no port is registered twice.
theorem Intact.held_perm (i : r.Intact) : r.held.Perm (r.registered.flatMap Port.handles) := by
  have hn : ((List.range r.ports.length).filter fun j => !decide (j ∈ r.names.map (·.2))).flatMap
      (handlesAt r.ports) = [] := by
    refine List.flatMap_eq_nil_iff.2 ?_
    intro place hm
    exact i.handlesAt_eq_nil (by simpa using (List.mem_filter.1 hm).2)
  have hf := List.filter_append_perm (· ∈ r.names.map (·.2)) (List.range r.ports.length)
  replace hf := hf.flatMap_right (handlesAt r.ports)
  rw [List.flatMap_append, hn, List.append_nil, flatMap_range] at hf
  rw [flatMap_registered]
  exact hf.symm.trans (i.filter_perm.flatMap_right _)

end Registered

end Registry

end TapPort
