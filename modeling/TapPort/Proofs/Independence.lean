import Mathlib.Data.List.Basic

namespace TapPort

variable {α β γ σ τ : Type}

structure Independent (f : σ → α × σ) (g : σ → β × σ) (s : σ) : Prop where
  -- Neither answer depends on whether the other call was made before.
  left : (f (g s).2).1 = (f s).1
  right : (g (f s).2).1 = (g s).1
  state : (f (g s).2).2 = (g (f s).2).2

-- A call that does nothing.
def idle (a : α) : σ → α × σ := fun s => (a, s)

-- A call, and another one that is made with its answer.
def chain (f : σ → α × σ) (k : α → σ → β × σ) : σ → β × σ := fun s => k (f s).1 (f s).2

-- Calls on one of two states that are kept together.
def onLeft (f : σ → α × σ) : σ × τ → α × (σ × τ) := fun s => ((f s.1).1, ((f s.1).2, s.2))

def onRight (f : τ → α × τ) : σ × τ → α × (σ × τ) := fun s => ((f s.2).1, (s.1, (f s.2).2))

@[simp] theorem idle_apply (a : α) (s : σ) : idle a s = (a, s) := rfl

@[simp] theorem chain_apply (f : σ → α × σ) (k : α → σ → β × σ) (s : σ) :
    chain f k s = k (f s).1 (f s).2 := rfl

@[simp] theorem onLeft_apply (f : σ → α × σ) (s : σ × τ) :
    onLeft f s = ((f s.1).1, ((f s.1).2, s.2)) := rfl

@[simp] theorem onRight_apply (f : τ → α × τ) (s : σ × τ) :
    onRight f s = ((f s.2).1, (s.1, (f s.2).2)) := rfl

namespace Independent

variable {f : σ → α × σ} {g : σ → β × σ} {s : σ}

theorem symm (h : Independent f g s) : Independent g f s :=
  ⟨h.right, h.left, h.state.symm⟩

theorem idle (a : α) (g : σ → β × σ) (s : σ) : Independent (idle a) g s :=
  ⟨rfl, rfl, rfl⟩

theorem chain {k : α → σ → γ × σ} (h : Independent f g s)
    (hk : Independent (k (f s).1) g (f s).2) : Independent (chain f k) g s where
  left := by
    simp only [chain_apply, h.left, h.state]
    exact hk.left
  right := hk.right.trans h.right
  state := by
    simp only [chain_apply, h.left, h.state]
    exact hk.state

theorem map (k : α → γ) (h : Independent f g s) :
    Independent (TapPort.chain f fun a => TapPort.idle (k a)) g s :=
  h.chain (idle ..)

theorem onLeft {s : σ × τ} (h : Independent f g s.1) :
    Independent (onLeft f) (TapPort.onLeft g) s where
  left := h.left
  right := h.right
  state := congrArg (·, s.2) h.state

theorem onRight {s : τ × σ} (h : Independent f g s.2) :
    Independent (onRight f) (TapPort.onRight g) s where
  left := h.left
  right := h.right
  state := congrArg (s.1, ·) h.state

-- Calls on different states are independent whatever they are.
theorem crossed (f : σ → α × σ) (g : τ → β × τ) (s : σ × τ) :
    Independent (TapPort.onLeft f) (TapPort.onRight g) s :=
  ⟨rfl, rfl, rfl⟩

end Independent

-- Calls that look at the element in one place, and then change it.
def atPlace (i : Nat) (look : Option α → β) (change : α → α) : List α → β × List α :=
  fun l => (look l[i]?, l.modify i change)

theorem independent_atPlace {i j : Nat} (hij : i ≠ j) (look : Option α → β) (look' : Option α → γ)
    (change change' : α → α) (l : List α) :
    Independent (atPlace i look change) (atPlace j look' change') l where
  left := by simp [atPlace, hij.symm]
  right := by simp [atPlace, hij]
  state := by
    apply List.ext_getElem?
    intro n
    simp only [atPlace, List.getElem?_modify]
    by_cases hi : i = n
    case neg => simp [hi]
    case pos => simp [show j ≠ n from hi ▸ hij.symm]

end TapPort
