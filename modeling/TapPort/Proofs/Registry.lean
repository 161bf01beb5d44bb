import TapPort.Proofs.Port.Sound
import TapPort.Registry

namespace TapPort

variable {κ δ χ ρ : Type} [Device δ κ] [Controlled δ χ ρ]

namespace Registry

-- What holds of the names of a registry and of its ports at all times.
structure Intact (r : Registry δ κ) : Prop where
  sorted : r.names.Pairwise (·.1 < ·.1)
  bounded : ∀ e ∈ r.names, e.2 < r.ports.length
  distinct : (r.names.map (·.2)).Nodup
  sound : ∀ p ∈ r.ports, p.Sound
  -- A port is forgotten only when it is closed.
  retired : ∀ (i : Nat) (p : Port κ), r.ports[i]? = some p → i ∉ r.names.map (·.2) →
    p.phase = .closed

-- The registry before a step and after it. Ports are only ever added, and stay in their places.
inductive Move (r : Registry δ κ) : Registry δ κ → Prop
  | rest : Move r r
  | failed {name iface : String} {id : UInt16} {args : PortArgs} {e : Error} {dev : δ} :
    Port.Making name iface id args r.dev (.error e, dev) → Move r { r with dev }
  | made {name iface : String} {id : UInt16} {args : PortArgs} {p : Port κ} {dev : δ}
      {unit : UInt32} :
    (∀ e ∈ r.names, e.1 ≠ name) →
    r.lowestFreeId = some id →
    r.interfaceFor args = (iface, unit) →
    Port.Making name iface id args r.dev (.ok p, dev) →
    Move r ⟨dev, r.ports ++ [p], insert name r.ports.length r.names, unit⟩
  | carried {place : Nat} {p p' : Port κ} {dev : δ} :
    r.ports[place]? = some p →
    Port.Steps p r.dev p' dev →
    Move r { r with dev, ports := r.ports.set place p' }
  | removed {name : String} {place : Nat} {p p' : Port κ} {dev : δ} :
    (name, place) ∈ r.names →
    r.ports[place]? = some p →
    p.shutdown r.dev = (p', dev) →
    Move r ⟨dev, r.ports.set place p', r.names.filter (·.1 != name), r.unit⟩
  | controlled (c : χ) : Move r { r with dev := (Controlled.control c r.dev).2 }

theorem lookup_eq_none {α : Type} {name : String} {l : List (String × α)} :
    l.lookup name = none ↔ ∀ e ∈ l, e.1 ≠ name := by
  rw [List.lookup_eq_none_iff]
  simp only [bne_iff_ne, ne_comm]

theorem mem_of_lookup {α : Type} {name : String} {l : List (String × α)} {a : α}
    (h : l.lookup name = some a) : (name, a) ∈ l := by
  obtain ⟨l₁, l₂, rfl, -⟩ := List.lookup_eq_some_iff.1 h
  simp

-- How a probe may end. One that fails leaves all but the device as it is.
inductive Probing (r : Registry δ κ) (name : String) (args : PortArgs) :
    Except Error Nat × Registry δ κ → Prop
  | refused (e : Error) : Probing r name args (.error e, r)
  | failed {id : UInt16} {e : Error} {dev : δ} :
    Port.Making name (r.interfaceFor args).1 id args r.dev (.error e, dev) →
    Probing r name args (.error e, { r with dev })
  | made {id : UInt16} {p : Port κ} {dev : δ} :
    (∀ e ∈ r.names, e.1 ≠ name) →
    r.lowestFreeId = some id →
    Port.Making name (r.interfaceFor args).1 id args r.dev (.ok p, dev) →
    Probing r name args (.ok r.ports.length,
      ⟨dev, r.ports ++ [p], insert name r.ports.length r.names, (r.interfaceFor args).2⟩)

theorem probe_probing (r : Registry δ κ) (name : String) (args : PortArgs) :
    r.Probing name args (r.probe name args) := by
  unfold probe
  split
  case h_1 e _ => exact .refused e
  case h_2 =>
    split
    case isTrue => exact .refused _
    case isFalse hn =>
      have hn' : ∀ e ∈ r.names, e.1 ≠ name := lookup_eq_none.1 (Option.not_isSome_iff_eq_none.1 hn)
      split
      case h_1 => exact .refused _
      case h_2 id hl =>
        have m := Port.create_making name (r.interfaceFor args).1 id args r.dev
        dsimp only
        generalize Port.create name (r.interfaceFor args).1 id args r.dev = c at m
        rcases c with ⟨_ | p, dev⟩
        case error => exact .failed m
        case ok => exact .made hn' hl m

theorem probe_move {r : Registry δ κ} (name : String) (args : PortArgs) :
    r.Move (r.probe name args).2 := by
  have hp := r.probe_probing name args
  generalize r.probe name args = result at hp
  cases hp
  case refused => exact .rest
  case failed m => exact .failed m
  case made hn hl m => exact .made hn hl rfl m

theorem probeText_move {r : Registry δ κ} (name text : String) :
    r.Move (r.probeText name text).2 := by
  unfold probeText
  split
  case h_1 => exact .rest
  case h_2 => exact probe_move ..

theorem Intact.remove_move {r : Registry δ κ} (i : r.Intact) (name : String) :
    r.Move (r.remove name) := by
  unfold remove
  split
  case h_1 => exact .rest
  case h_2 place hl =>
    have hm := mem_of_lookup hl
    have hp := List.getElem?_eq_getElem (i.bounded _ hm)
    dsimp only
    rw [hp]
    exact .removed hm hp rfl

omit [Device δ κ] in
theorem intact_ofDevice (dev : δ) : (ofDevice dev : Registry δ κ).Intact where
  sorted := .nil
  bounded := by simp [ofDevice]
  distinct := .nil
  sound := by simp [ofDevice]
  retired := by simp [ofDevice]

section Intact

variable {r r' : Registry δ κ}

omit [Device δ κ] in
theorem Intact.unique {e e' : String × Nat} (i : r.Intact) (he : e ∈ r.names) (he' : e' ∈ r.names)
    (h : e.1 = e'.1) : e = e' := by
  have hk : (r.names.map (·.1)).Nodup := by
    refine List.pairwise_map.2 (i.sorted.imp ?_)
    intro e e' hl he
    exact String.lt_irrefl _ (he ▸ hl)
  exact List.inj_on_of_nodup_map hk he he' h

omit [Device δ κ] in
theorem Intact.made {name : String} {p : Port κ} (i : r.Intact) (hn : ∀ e ∈ r.names, e.1 ≠ name)
    (hp : p.Sound) (dev : δ) (unit : UInt32) :
    (⟨dev, r.ports ++ [p], insert name r.ports.length r.names, unit⟩ : Registry δ κ).Intact where
  sorted := sorted_insert i.sorted hn
  bounded := by
    intro e he
    simp only [List.length_append, List.length_singleton]
    cases mem_insert.1 he
    case inl he => simp [he]
    case inr he => exact (i.bounded e he).trans (Nat.lt_succ_self _)
  distinct := by
    have hp := (perm_insert name r.ports.length r.names).map (·.2)
    refine hp.nodup_iff.2 (List.nodup_cons.2 ⟨?_, i.distinct⟩)
    intro hm
    obtain ⟨e, he, hl⟩ := List.mem_map.1 hm
    exact Nat.lt_irrefl _ (hl ▸ i.bounded e he)
  sound := by
    intro p' hm
    cases List.mem_append.1 hm
    case inl hm => exact i.sound p' hm
    case inr hm => exact List.mem_singleton.1 hm ▸ hp
  retired := by
    intro j p' hj hn'
    have hm := ((perm_insert name r.ports.length r.names).map (·.2)).mem_iff (a := j)
    simp only [hm, List.map_cons, List.mem_cons, not_or] at hn'
    rw [List.getElem?_append] at hj
    split at hj
    case isTrue => exact i.retired j p' hj hn'.2
    case isFalse hl =>
      have h0 := (List.getElem?_eq_some_iff.1 hj).1
      simp only [List.length_singleton] at h0
      omega

theorem Intact.carried {place : Nat} {p p' : Port κ} {dev : δ} (i : r.Intact)
    (hp : r.ports[place]? = some p) (s : Port.Steps p r.dev p' dev) :
    ({ r with dev, ports := r.ports.set place p' } : Registry δ κ).Intact where
  sorted := i.sorted
  bounded := by simpa using i.bounded
  distinct := i.distinct
  sound := by
    intro p₁ hm
    cases List.mem_or_eq_of_mem_set hm
    case inl hm => exact i.sound p₁ hm
    case inr he => exact he ▸ s.sound (i.sound p (List.mem_of_getElem? hp))
  retired := by
    intro j p₁ hj hn
    simp only [List.getElem?_set] at hj
    split at hj
    case isTrue he =>
      have hc := i.retired place p hp (he ▸ hn)
      split at hj
      case isTrue => exact Option.some.inj hj ▸ s.phase_closed hc
      case isFalse => cases hj
    case isFalse => exact i.retired j p₁ hj hn

theorem Intact.removed {name : String} {place : Nat} {p p' : Port κ} {dev : δ} (i : r.Intact)
    (hm : (name, place) ∈ r.names) (hp : r.ports[place]? = some p)
    (hs : p.shutdown r.dev = (p', dev)) :
    (⟨dev, r.ports.set place p', r.names.filter (·.1 != name), r.unit⟩ : Registry δ κ).Intact where
  sorted := i.sorted.filter _
  bounded := by
    intro e he
    simpa using i.bounded e (List.mem_of_mem_filter he)
  distinct := (List.filter_sublist.map _).nodup i.distinct
  sound := by
    intro p₁ hp₁
    have s := Port.Steps.refl.shutdown hs
    cases List.mem_or_eq_of_mem_set hp₁
    case inl h => exact i.sound p₁ h
    case inr he => exact he ▸ s.sound (i.sound p (List.mem_of_getElem? hp))
  retired := by
    intro j p₁ hj hn
    simp only [List.getElem?_set] at hj
    split at hj
    case isTrue =>
      split at hj
      case isTrue =>
        have hc := p.phase_shutdown r.dev
        rw [hs] at hc
        exact Option.some.inj hj ▸ hc
      case isFalse => cases hj
    case isFalse hne =>
      refine i.retired j p₁ hj ?_
      intro hj
      obtain ⟨e, he, rfl⟩ := List.mem_map.1 hj
      refine hn (List.mem_map.2 ⟨e, List.mem_filter.2 ⟨he, ?_⟩, rfl⟩)
      have hk : e.1 ≠ name := fun hk => hne (congrArg Prod.snd (i.unique hm he hk.symm))
      simpa using hk

-- Wherever ports are made through the registry alone, it stays intact.
theorem Move.intact (m : r.Move r') (i : r.Intact) : r'.Intact := by
  cases m
  case rest => exact i
  case failed => exact ⟨i.sorted, i.bounded, i.distinct, i.sound, i.retired⟩
  case made hn hl hf m =>
    cases m
    case made => exact i.made hn (Port.sound_initial ..) _ _
  case carried hp s => exact i.carried hp s
  case removed hm hp hs => exact i.removed hm hp hs
  case controlled => exact ⟨i.sorted, i.bounded, i.distinct, i.sound, i.retired⟩

end Intact

section Ports

variable {r r' : Registry δ κ}

-- Every port in a registry is what a run makes of one that was made.
theorem Move.ran (m : r.Move r') (h : ∀ p ∈ r.ports, Port.Ran δ p) :
    ∀ p ∈ r'.ports, Port.Ran δ p := by
  intro q hq
  cases m
  case made m =>
    cases List.mem_append.1 hq
    case inl hq => exact h q hq
    case inr hq =>
      obtain rfl := List.mem_singleton.1 hq
      exact Port.Made.ran ⟨_, _, _, _, _, _, m.create_eq⟩
  case carried hp s =>
    cases List.mem_or_eq_of_mem_set hq
    case inl hq => exact h q hq
    case inr he => exact he ▸ s.ran (h _ (List.mem_of_getElem? hp))
  case removed hp hs =>
    cases List.mem_or_eq_of_mem_set hq
    case inl hq => exact h q hq
    case inr he =>
      exact he ▸ (Port.Steps.refl.shutdown hs).ran (h _ (List.mem_of_getElem? hp))
  all_goals exact h q hq

omit [Device δ κ] in
theorem closed_set {ps : List (Port κ)} {place j : Nat} {p p' q : Port κ}
    (hp : ps[place]? = some p) (hs : p.phase = .closed → p'.phase = .closed)
    (hq : ps[j]? = some q) (hc : q.phase = .closed) :
    ∃ q', (ps.set place p')[j]? = some q' ∧ q'.phase = .closed := by
  by_cases hj : place = j
  case pos =>
    subst hj
    have hl := (List.getElem?_eq_some_iff.1 hp).1
    exact ⟨p', List.getElem?_set_self hl, hs (Option.some.inj (hq.symm.trans hp) ▸ hc)⟩
  case neg => exact ⟨q, by rwa [List.getElem?_set_ne hj], hc⟩

-- Whatever becomes of a registry, a closed port in it stays closed.
theorem Move.closed (m : r.Move r') {j : Nat} {q : Port κ} (hq : r.ports[j]? = some q)
    (hc : q.phase = .closed) : ∃ q', r'.ports[j]? = some q' ∧ q'.phase = .closed := by
  cases m
  case made =>
    have hl := (List.getElem?_eq_some_iff.1 hq).1
    exact ⟨q, by rwa [List.getElem?_append_left hl], hc⟩
  case carried hp s => exact closed_set hp s.phase_closed hq hc
  case removed hp hs => exact closed_set hp (Port.Steps.refl.shutdown hs).phase_closed hq hc
  all_goals exact ⟨q, hq, hc⟩

end Ports

end Registry

end TapPort
