import TapPort.Proofs.Device.Hom
import TapPort.Proofs.Port.Step

namespace TapPort

-- A queue that was asked for, by the name of its interface and with the descriptor that was handed
-- out if any, or one that was closed.
inductive Journaled.Entry (κ : Type) where
  | asked (name : Option String) (handle : Option κ)
  | closed (handle : κ)
deriving DecidableEq, Repr

-- The journal has the latest entry last.
structure Journaled (δ κ : Type) where
  dev : δ
  journal : List (Journaled.Entry κ)

namespace Journaled

variable {κ δ χ ρ α : Type}

def ofDevice (dev : δ) : Journaled δ κ := ⟨dev, []⟩

-- A call that opens and closes nothing.
def called (d : Journaled δ κ) (r : α × δ) : α × Journaled δ κ := (r.1, { d with dev := r.2 })

def handed? : Except Error (κ × String) → Option κ
  | .ok (h, _) => some h
  | .error _ => none

instance [Device δ κ] : Device (Journaled δ κ) κ where
  features d := d.called (Device.features d.dev)
  openQueue name n d :=
    let r := Device.openQueue name n d.dev
    (r.1, ⟨r.2, d.journal ++ [.asked name (handed? r.1)]⟩)
  read h n d := d.called (Device.read h n d.dev)
  write h bs d := d.called (Device.write h bs d.dev)
  pollWritable h d := d.called (Device.pollWritable h d.dev)
  address h d := d.called (Device.address h d.dev)
  setAddress h mac d := d.called (Device.setAddress h mac d.dev)
  index h d := d.called (Device.index h d.dev)
  close h d := ⟨Device.close h d.dev, d.journal ++ [.closed h]⟩
  halted d := Device.halted d.dev

instance [Controlled δ χ ρ] : Controlled (Journaled δ κ) χ ρ where
  control c d := d.called (Controlled.control c d.dev)

variable [Device δ κ]

theorem hom_dev : Hom (κ := κ) (dev : Journaled δ κ → δ) where
  openQueue _ _ _ := rfl
  read _ _ _ := rfl
  write _ _ _ := rfl
  pollWritable _ _ := rfl
  address _ _ := rfl
  setAddress _ _ _ := rfl
  index _ _ := rfl
  close _ _ := rfl
  halted _ := rfl

theorem journal_openQueue {name : Option String} {n : UInt16} {d d' : Journaled δ κ}
    {r : Except Error (κ × String)} (h : Device.openQueue name n d = (r, d')) :
    d'.journal = d.journal ++ [.asked name (handed? r)] := by
  cases h
  rfl

omit [Device δ κ] in
theorem journal_called {r : α × δ} {a : α} {d d' : Journaled δ κ} (h : d.called r = (a, d')) :
    d'.journal = d.journal := by
  cases h
  rfl

theorem journal_assign {h : κ} {id : UInt16} {node : UInt8} {d d' : Journaled δ κ}
    {r : Except Error Mac} (ha : Address.assign h id node d = (r, d')) :
    d'.journal = d.journal := by
  simp only [Address.assign] at ha
  split at ha
  case h_1 hr =>
    cases ha
    exact journal_called hr
  case h_2 hr =>
    split at ha
    case h_1 hs | h_2 hs =>
      cases ha
      exact (journal_called hs).trans (journal_called hr)

theorem journal_identify {h : κ} {name : String} {id : UInt16} {node : UInt8}
    {d d' : Journaled δ κ} {r : Except Error (Mac × UInt32)}
    (hi : Address.identify h name id node d = (r, d')) : d'.journal = d.journal := by
  simp only [Address.identify] at hi
  split at hi
  case h_1 ha =>
    cases hi
    exact journal_assign ha
  case h_2 ha =>
    split at hi
    case h_1 hx | h_2 hx =>
      cases hi
      exact (journal_called hx).trans (journal_assign ha)

-- Entries after which the same queues are open as before.
inductive Vain : List (Entry κ) → Prop
  | none : Vain []
  | refused (name : Option String) : Vain [.asked name none]
  | undone (name : Option String) (h : κ) : Vain [.asked name (some h), .closed h]

section Making

variable {name iface : String} {id : UInt16} {args : PortArgs} {d d' : Journaled δ κ}

theorem making_ok {p : Port κ} (m : Port.Making name iface id args d (.ok p, d')) :
    ∃ h, p.handles = [h] ∧ d'.journal = d.journal ++ [.asked (some iface) (some h)] := by
  cases m
  case made h _ _ _ _ hv ho hi =>
    refine ⟨h, Port.handles_initial _ _ _ _ _ _ (Port.queues_pos_of_validate hv), ?_⟩
    exact (journal_identify hi).trans (journal_openQueue ho)

theorem making_error {e : Error} (m : Port.Making name iface id args d (.error e, d')) :
    ∃ entries, d'.journal = d.journal ++ entries ∧ Vain entries := by
  cases m
  case invalid => exact ⟨[], (List.append_nil _).symm, .none⟩
  case refused ho => exact ⟨_, journal_openQueue ho, .refused _⟩
  case unidentified h _ _ d₂ _ ho hi =>
    refine ⟨_, ?_, .undone (some iface) h⟩
    calc d₂.journal ++ [.closed h]
      _ = (d.journal ++ [.asked (some iface) (some h)]) ++ [.closed h] := by
        rw [journal_identify hi, journal_openQueue ho]
        rfl
      _ = d.journal ++ [.asked (some iface) (some h), .closed h] := List.append_assoc ..

end Making

end Journaled

end TapPort
