import TapPort.Proofs.Port.Title
import TapPort.Proofs.Registry

namespace TapPort

variable {κ δ χ ρ α : Type}

namespace Registry

section Registered

variable {r : Registry δ κ} {p p' : Port κ} {place : Nat}

theorem mem_registered : p ∈ r.registered ↔ ∃ e ∈ r.names, r.ports[e.2]? = some p :=
  List.mem_filterMap

theorem registered_append (hb : ∀ e ∈ r.names, e.2 < r.ports.length) (p : Port κ) :
    ({ r with ports := r.ports ++ [p] } : Registry δ κ).registered = r.registered := by
  simp only [registered]
  apply List.filterMap_congr
  intro e he
  exact List.getElem?_append_left (hb e he)

theorem registered_made (hb : ∀ e ∈ r.names, e.2 < r.ports.length) (name : String) (p : Port κ)
    (dev : δ) (unit : UInt32) :
    (⟨dev, r.ports ++ [p], insert name r.ports.length r.names, unit⟩ :
      Registry δ κ).registered.Perm (p :: r.registered) := by
  have hp := (perm_insert name r.ports.length r.names).filterMap fun e => (r.ports ++ [p])[e.2]?
  have ha := registered_append hb p
  simp only [registered] at ha ⊢
  have hl : (r.ports ++ [p])[r.ports.length]? = some p := List.getElem?_concat_length
  simp only [List.filterMap_cons, hl, ha] at hp
  exact hp

-- A change of a port that does not show in what is looked at does not show in the registered ports.
theorem map_registered_set {f : Port κ → α} (hp : r.ports[place]? = some p) (hf : f p' = f p)
    (dev : δ) (unit : UInt32) :
    (⟨dev, r.ports.set place p', r.names, unit⟩ : Registry δ κ).registered.map f =
      r.registered.map f := by
  simp only [registered, List.map_filterMap]
  apply List.filterMap_congr
  intro e _
  by_cases he : place = e.2
  case neg => rw [List.getElem?_set_ne he]
  case pos =>
    have hl := (List.getElem?_eq_some_iff.1 hp).1
    rw [← he, List.getElem?_set_self hl, hp, Option.map_some, Option.map_some, hf]

theorem registered_filter (q : String × Nat → Bool) (dev dev' : δ) (ps : List (Port κ))
    (names : List (String × Nat)) (unit : UInt32) :
    (⟨dev, ps, names.filter q, unit⟩ : Registry δ κ).registered.Sublist
      (⟨dev', ps, names, unit⟩ : Registry δ κ).registered :=
  List.filter_sublist.filterMap _

end Registered

-- That ports are registered under their own names.
def Named (r : Registry δ κ) : Prop :=
  ∀ e ∈ r.names, r.ports[e.2]?.map Port.name = some e.1

section Named

variable {r r' : Registry δ κ} {p p' : Port κ} {place : Nat}

theorem Named.registered_names (n : r.Named) : r.registered.map Port.name = r.names.map (·.1) := by
  rw [registered, List.map_filterMap, ← List.filterMap_eq_map]
  exact List.filterMap_congr n

theorem Intact.sorted_registered (i : r.Intact) (n : r.Named) :
    (r.registered.map Port.name).Pairwise (· < ·) := by
  rw [n.registered_names]
  exact List.pairwise_map.2 i.sorted

theorem Named.set (n : r.Named) (hp : r.ports[place]? = some p) (hn : p'.name = p.name) :
    ({ r with ports := r.ports.set place p' } : Registry δ κ).Named := by
  intro e he
  by_cases hl : place = e.2
  case neg => exact (List.getElem?_set_ne hl (a := p')).symm ▸ n e he
  case pos =>
    have hs := n e he
    rw [← hl, hp] at hs
    rw [← hl, List.getElem?_set_self (List.getElem?_eq_some_iff.1 hp).1, Option.map_some, hn]
    exact hs

theorem Named.made (n : r.Named) (p : Port κ) (dev : δ) (unit : UInt32) :
    (⟨dev, r.ports ++ [p], insert p.name r.ports.length r.names, unit⟩ : Registry δ κ).Named := by
  intro e he
  cases mem_insert.1 he
  case inl he => rw [he, List.getElem?_concat_length, Option.map_some]
  case inr he =>
    have hs := n e he
    have ⟨q, hq, _⟩ := Option.map_eq_some_iff.1 hs
    rwa [List.getElem?_append_left (List.getElem?_eq_some_iff.1 hq).1]

end Named

variable [Device δ κ] [Controlled δ χ ρ] {r r' : Registry δ κ}

theorem Move.named (m : r.Move r') (ht : ∀ p ∈ r.ports, p.Titled) (n : r.Named) : r'.Named := by
  cases m
  case made m =>
    rw [← m.title.1]
    exact n.made _ _ _
  case carried hp s => exact n.set hp (s.title (ht _ (List.mem_of_getElem? hp))).name
  case removed hp hs =>
    have s := Port.Steps.refl.shutdown hs
    have n' := n.set hp (s.title (ht _ (List.mem_of_getElem? hp))).name
    exact fun e he => n' e (List.mem_of_mem_filter he)
  all_goals exact n

theorem Move.title (m : r.Move r') (ht : ∀ p ∈ r.ports, p.Titled) {place : Nat} {p : Port κ}
    (hp : r.ports[place]? = some p) : ∃ p', r'.ports[place]? = some p' ∧ p.SameTitle p' := by
  have set {j : Nat} {q q' : Port κ} {dev : δ} (hq : r.ports[j]? = some q)
      (s : Port.Steps q r.dev q' dev) :
      ∃ p', (r.ports.set j q')[place]? = some p' ∧ p.SameTitle p' := by
    by_cases hj : j = place
    case neg => exact ⟨p, by rwa [List.getElem?_set_ne hj], .refl p⟩
    case pos =>
      subst hj
      cases hq.symm.trans hp
      have hl := (List.getElem?_eq_some_iff.1 hp).1
      exact ⟨q', List.getElem?_set_self hl, s.title (ht _ (List.mem_of_getElem? hp))⟩
  cases m
  case made =>
    have hl := (List.getElem?_eq_some_iff.1 hp).1
    exact ⟨p, by rwa [List.getElem?_append_left hl], .refl p⟩
  case carried hq s => exact set hq s
  case removed hq hs => exact set hq (Port.Steps.refl.shutdown hs)
  all_goals exact ⟨p, hp, .refl p⟩

end Registry

end TapPort
