import TapPort.Proofs.Custody
import TapPort.Proofs.Device.Hom
import TapPort.Proofs.Device.Memory

namespace TapPort

-- The lists have the latest descriptor first.
structure Recorded (δ κ : Type) where
  dev : δ
  opened : List κ
  closed : List κ

namespace Recorded

variable {κ δ χ ρ α : Type}

def ofDevice (dev : δ) : Recorded δ κ := ⟨dev, [], []⟩

-- A call that neither hands out a descriptor nor takes one back.
def called (d : Recorded δ κ) (r : α × δ) : α × Recorded δ κ := (r.1, { d with dev := r.2 })

-- The descriptor that was handed out, if any.
def handed : Except Error (κ × String) → List κ
  | .ok (h, _) => [h]
  | .error _ => []

instance [Device δ κ] : Device (Recorded δ κ) κ where
  features d := d.called (Device.features d.dev)
  openQueue name n d :=
    let r := Device.openQueue name n d.dev
    (r.1, ⟨r.2, handed r.1 ++ d.opened, d.closed⟩)
  read h n d := d.called (Device.read h n d.dev)
  write h bs d := d.called (Device.write h bs d.dev)
  pollWritable h d := d.called (Device.pollWritable h d.dev)
  address h d := d.called (Device.address h d.dev)
  setAddress h mac d := d.called (Device.setAddress h mac d.dev)
  index h d := d.called (Device.index h d.dev)
  close h d := ⟨Device.close h d.dev, d.opened, h :: d.closed⟩
  halted d := Device.halted d.dev

instance [Controlled δ χ ρ] : Controlled (Recorded δ κ) χ ρ where
  control c d := d.called (Controlled.control c d.dev)

variable [Device δ κ]

theorem hom_dev : Hom (κ := κ) (dev : Recorded δ κ → δ) where
  openQueue _ _ _ := rfl
  read _ _ _ := rfl
  write _ _ _ := rfl
  pollWritable _ _ := rfl
  address _ _ := rfl
  setAddress _ _ _ := rfl
  index _ _ := rfl
  close _ _ := rfl
  halted _ := rfl

theorem openQueue_eq {name : Option String} {n : UInt16} {d d' : Recorded δ κ}
    {r : Except Error (κ × String)} (h : Device.openQueue name n d = (r, d')) :
    Device.openQueue name n d.dev = (r, d'.dev) ∧ d'.opened = handed r ++ d.opened ∧
      d'.closed = d.closed := by
  cases h
  exact ⟨rfl, rfl, rfl⟩

-- That what was handed out since a device was as given, and what was held then, is what was given
-- back since and what is held.
def Balanced (d₀ : Recorded δ κ) (held₀ : List κ) (d : Recorded δ κ) (held : List κ) : Prop :=
  ∃ opened closed, d.opened = opened ++ d₀.opened ∧ d.closed = closed ++ d₀.closed ∧
    (opened ++ held₀).Perm (closed ++ held)

omit [Device δ κ] in
theorem balanced_refl (d : Recorded δ κ) (held : List κ) : Balanced d held d held :=
  ⟨[], [], rfl, rfl, .refl _⟩

theorem custody_balanced (d₀ : Recorded δ κ) (held₀ : List κ) : Custody (Balanced d₀ held₀) where
  perm hp := by
    rintro ⟨opened, closed, ho, hc, hb⟩
    exact ⟨opened, closed, ho, hc, hb.trans (hp.append_left closed)⟩
  refused h := by
    rintro ⟨opened, closed, ho, hc, hb⟩
    obtain ⟨-, ho', hc'⟩ := openQueue_eq h
    exact ⟨opened, closed, ho'.trans ho, hc'.trans hc, hb⟩
  opened {_ _ _ id _ _ _} h := by
    rintro ⟨opened, closed, ho, hc, hb⟩
    obtain ⟨-, ho', hc'⟩ := openQueue_eq h
    have hp := (hb.cons id).trans List.perm_middle.symm
    exact ⟨id :: opened, closed, ho'.trans (congrArg (id :: ·) ho), hc'.trans hc, hp⟩
  close {h d hs} := by
    rintro ⟨opened, closed, ho, hc, hb⟩
    exact ⟨opened, h :: closed, ho, congrArg (h :: ·) hc, hb.trans List.perm_middle⟩
  read _ _ b := b
  write _ _ b := b
  pollWritable _ b := b
  address _ b := b
  setAddress _ _ b := b
  index _ b := b

-- That ids are handed out in order.
def Numbered (d : Recorded MemoryTap Nat) : Prop := d.opened.reverse = List.range' 1 d.dev.opens

theorem Numbered.congr {d d' : Recorded MemoryTap Nat} (hn : d.Numbered)
    (ho : d'.opened = d.opened) (he : d'.dev.opens = d.dev.opens) : d'.Numbered := by
  rw [Numbered, ho, he]
  exact hn

theorem Numbered.control {d : Recorded MemoryTap Nat} (hn : d.Numbered) (c : MemoryTap.Control) :
    Numbered (Controlled.control c d).2 :=
  hn.congr rfl (MemoryTap.opens_control c)

theorem custody_numbered : Custody fun (d : Recorded MemoryTap Nat) _ => d.Numbered where
  perm _ hn := hn
  refused h hn := by
    obtain ⟨hr, ho, -⟩ := openQueue_eq h
    exact hn.congr ho (congrArg MemoryTap.opens (MemoryTap.openQueue_error hr))
  opened h hn := by
    obtain ⟨hr, ho, -⟩ := openQueue_eq h
    obtain ⟨flags, -, hi, -, hd⟩ := MemoryTap.openQueue_ok hr
    rw [Numbered] at hn ⊢
    rw [ho, hd, MemoryTap.opens_attach, List.range'_concat]
    simp [handed, hi, hn, Nat.add_comm]
  close hn := hn.congr rfl MemoryTap.opens_detach
  read n _ hn := hn.congr rfl (MemoryTap.opens_read n)
  write bs _ hn := hn.congr rfl (MemoryTap.opens_write bs)
  pollWritable _ hn := hn
  address _ hn := hn.congr rfl (MemoryTap.guardAddress_cases (P := (·.opens = _)) rfl rfl)
  setAddress _ _ hn := hn.congr rfl (MemoryTap.guardAddress_cases (P := (·.opens = _)) rfl rfl)
  index _ hn := hn

end Recorded

end TapPort
