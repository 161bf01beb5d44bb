import TapPort.Proofs.Port.Sound

namespace TapPort

variable {κ δ : Type} [Device δ κ]

theorem Address.eq_app_of_identify {h : κ} {name : String} {id : UInt16} {node : UInt8}
    {dev dev' : δ} {mac : Mac} {ifIndex : UInt32}
    (hi : identify h name id node dev = (.ok (mac, ifIndex), dev')) : mac = app id node := by
  simp only [identify] at hi
  split at hi
  case h_1 => cases hi
  case h_2 ha =>
    simp only [assign] at ha
    split at ha
    case h_1 => cases ha
    case h_2 =>
      split at ha
      case h_1 => cases ha
      case h_2 =>
        cases ha
        split at hi
        case h_1 => cases hi
        case h_2 =>
          cases hi
          rfl

namespace Port

-- That a port has the address that is made from its id and its node.
def Titled (p : Port κ) : Prop := p.mac = Address.app p.id p.numaNode

-- That one port is the other one, maybe at another time.
structure SameTitle (p p' : Port κ) : Prop where
  name : p'.name = p.name
  id : p'.id = p.id
  numaNode : p'.numaNode = p.numaNode
  mac : p'.mac = p.mac

section Title

variable {p p' : Port κ} {q : Nat} {dev dev' : δ}

omit [Device δ κ] in
theorem SameTitle.refl (p : Port κ) : p.SameTitle p := ⟨rfl, rfl, rfl, rfl⟩

omit [Device δ κ] in
theorem SameTitle.trans {p₁ p₂ : Port κ} (t : p.SameTitle p₁) (t' : p₁.SameTitle p₂) :
    p.SameTitle p₂ :=
  ⟨t'.name.trans t.name, t'.id.trans t.id, t'.numaNode.trans t.numaNode, t'.mac.trans t.mac⟩

omit [Device δ κ] in
theorem SameTitle.titled (t : p.SameTitle p') (h : p.Titled) : p'.Titled := by
  rw [Titled, t.mac, t.id, t.numaNode]
  exact h

theorem Opening.title (o : Opening p q dev (.ok p', dev')) (h : p.Titled) : p.SameTitle p' := by
  cases o
  case already => exact .refl p
  case joined => exact ⟨rfl, rfl, rfl, rfl⟩
  case identified hi => exact ⟨rfl, rfl, rfl, (Address.eq_app_of_identify hi).trans h.symm⟩

theorem Course.title {op : Op} {e : Effect κ δ} (c : Course p dev op e) (h : p.Titled) :
    p.SameTitle e.port := by
  cases c
  case halted =>
    rw [halt_eq]
    exact ⟨rfl, rfl, rfl, rfl⟩
  case openedRx o =>
    have t := o.title h
    exact ⟨t.name, t.id, t.numaNode, t.mac⟩
  case openedTx o => exact o.title h
  all_goals exact ⟨rfl, rfl, rfl, rfl⟩

theorem Steps.title (s : Steps p dev p' dev') (h : p.Titled) : p.SameTitle p' := by
  induction s
  case refl => exact .refl p
  case tail p₁ dev₁ op _ ih => exact ih.trans ((p₁.step_course dev₁ op).title (ih.titled h))

end Title

theorem Making.title {name iface : String} {id : UInt16} {args : PortArgs} {dev dev' : δ}
    {p : Port κ} (m : Making name iface id args dev (.ok p, dev')) :
    p.name = name ∧ p.id = id ∧ p.Titled := by
  cases m
  case made hi => exact ⟨rfl, rfl, Address.eq_app_of_identify hi⟩

theorem titled_run {p : Port κ} (h : p.Titled) (calls : List (Call δ)) : (p.run calls).Titled := by
  induction calls generalizing p
  case nil => exact h
  case cons c calls ih => exact ih (((p.step_course c.dev c.op).title h).titled h)

theorem Ran.titled {p : Port κ} (h : Ran δ p) : p.Titled := by
  have ⟨p₀, calls, hm, hp⟩ := h
  have ⟨name, iface, id, args, dev, dev', hc⟩ := hm
  have m := create_making name iface id args dev
  rw [hc] at m
  rw [hp]
  exact titled_run m.title.2.2 calls

end Port

end TapPort
