import TapPort.Port.Lifecycle

namespace TapPort

-- Ports over one device, which are found by name. Each has the least id that no other registered
-- port has, and where no interface is asked for, one is named after a running number.
structure Registry (δ κ : Type) where
  dev : δ
  -- All ports that were ever made, in that order; a port stays known after it was removed.
  ports : List (Port κ)
  -- The registered ports by name, in ascending order, with their places in `ports`.
  names : List (String × Nat)
  -- The number in the next generated name. It goes round.
  unit : UInt32

namespace Registry

variable {κ δ : Type} [Device δ κ]

def generatedName : String := "dtap"

def idLimit : Nat := 65536

def ofDevice (dev : δ) : Registry δ κ := ⟨dev, [], [], 0⟩

def insert (name : String) (place : Nat) : List (String × Nat) → List (String × Nat)
  | [] => [(name, place)]
  | (n, p) :: rest =>
    if name < n then (name, place) :: (n, p) :: rest else (n, p) :: insert name place rest

def registered (r : Registry δ κ) : List (Port κ) := r.names.filterMap fun e => r.ports[e.2]?

def get? (r : Registry δ κ) (name : String) : Option (Port κ) :=
  (r.names.lookup name).bind fun place => r.ports[place]?

-- Counts up from `id` through the numbers that are used, crossing each one off, to the first that
-- is not. As many steps as there are numbers are enough.
def leastUnused : Nat → Nat → List Nat → Nat
  | 0, id, _ => id
  | steps + 1, id, used => if id ∈ used then leastUnused steps (id + 1) (used.erase id) else id

-- The least id that no registered port has, if there is one.
def lowestFreeId (r : Registry δ κ) : Option UInt16 :=
  let used := r.registered.map fun p => p.id.toNat
  let id := leastUnused used.length 0 used
  if id < idLimit then some (UInt16.ofNat id) else none

-- The interface that a port is made on, and the number for the next generated name.
def interfaceFor (r : Registry δ κ) (args : PortArgs) : String × UInt32 :=
  match args.iface with
  | some iface => (iface, r.unit)
  | none => (generatedName ++ toString r.unit, r.unit + 1)

-- Makes a port and registers it under a name; the answer is its place.
def probe (r : Registry δ κ) (name : String) (args : PortArgs) :
    Except Error Nat × Registry δ κ :=
  match args.validate with
  | .error e => (.error e, r)
  | .ok () =>
    if (r.names.lookup name).isSome then (.error (.config (.portExists name)), r)
    else match r.lowestFreeId with
      | none => (.error (.config .noFreePortId), r)
      | some id =>
        let (iface, unit) := r.interfaceFor args
        match Port.create name iface id args r.dev with
        | (.error e, dev) => (.error e, { r with dev })
        | (.ok port, dev) =>
          let place := r.ports.length
          (.ok place, ⟨dev, r.ports ++ [port], insert name place r.names, unit⟩)

def probeText (r : Registry δ κ) (name text : String) : Except Error Nat × Registry δ κ :=
  match PortArgs.parse text with
  | .error e => (.error e, r)
  | .ok args => r.probe name args

-- Makes a port without registering it; the answer is its place.
def create (r : Registry δ κ) (name iface : String) (id : UInt16) (args : PortArgs) :
    Except Error Nat × Registry δ κ :=
  match Port.create name iface id args r.dev with
  | (.error e, dev) => (.error e, { r with dev })
  | (.ok port, dev) => (.ok r.ports.length, { r with dev, ports := r.ports ++ [port] })

-- Closes the port of a name and forgets the name.
def remove (r : Registry δ κ) (name : String) : Registry δ κ :=
  match r.names.lookup name with
  | none => r
  | some place =>
    let r := { r with names := r.names.filter (·.1 != name) }
    match r.ports[place]? with
    | none => r
    | some port =>
      let (port, dev) := port.shutdown r.dev
      { r with dev, ports := r.ports.set place port }

theorem perm_insert (name : String) (place : Nat) (l : List (String × Nat)) :
    (insert name place l).Perm ((name, place) :: l) := by
  induction l
  case nil => exact .refl _
  case cons e rest ih =>
    simp only [insert]
    split
    case isTrue => exact .refl _
    case isFalse => exact (ih.cons e).trans (List.Perm.swap ..)

theorem mem_insert {e : String × Nat} {name : String} {place : Nat} {l : List (String × Nat)} :
    e ∈ insert name place l ↔ e = (name, place) ∨ e ∈ l := by
  rw [(perm_insert name place l).mem_iff, List.mem_cons]

-- Names are entered only if they are not there yet, so that the order is strict: no two ports have
-- one name.
theorem sorted_insert {name : String} {place : Nat} {l : List (String × Nat)}
    (hl : l.Pairwise (·.1 < ·.1)) (hn : ∀ e ∈ l, e.1 ≠ name) :
    (insert name place l).Pairwise (·.1 < ·.1) := by
  induction l
  case nil => exact List.pairwise_singleton ..
  case cons e rest ih =>
    have he := List.pairwise_cons.1 hl
    simp only [insert]
    split
    case isTrue h =>
      refine List.pairwise_cons.2 ⟨?_, hl⟩
      intro f hf
      cases List.mem_cons.1 hf
      case inl hf => exact hf ▸ h
      case inr hf => exact String.lt_trans h (he.1 f hf)
    case isFalse h =>
      refine List.pairwise_cons.2 ⟨?_, ih he.2 fun f hf => hn f (.tail _ hf)⟩
      intro f hf
      cases mem_insert.1 hf
      case inl hf => exact hf ▸ Std.lt_of_le_of_ne (Std.not_lt.1 h) (hn e List.mem_cons_self)
      case inr hf => exact he.1 f hf

theorem le_leastUnused (steps id : Nat) (used : List Nat) : id ≤ leastUnused steps id used := by
  induction steps generalizing id used
  case zero => exact Nat.le_refl _
  case succ steps ih =>
    simp only [leastUnused]
    split
    case isTrue => exact Nat.le_of_succ_le (ih ..)
    case isFalse => exact Nat.le_refl _

theorem leastUnused_not_mem {steps id : Nat} {used : List Nat} (h : used.length ≤ steps) :
    leastUnused steps id used ∉ used := by
  induction steps generalizing id used
  case zero =>
    have hu : used = [] := List.length_eq_zero_iff.1 (Nat.le_zero.1 h)
    simp [hu]
  case succ steps ih =>
    simp only [leastUnused]
    split
    case isFalse hm => exact hm
    case isTrue hm =>
      have hl : (used.erase id).length ≤ steps := by
        rw [List.length_erase_of_mem hm]
        omega
      have hne : leastUnused steps (id + 1) (used.erase id) ≠ id :=
        Nat.ne_of_gt (le_leastUnused ..)
      exact fun hu => ih hl ((List.mem_erase_of_ne hne).2 hu)

theorem mem_of_lt_leastUnused {steps id n : Nat} {used : List Nat} (hn : id ≤ n)
    (h : n < leastUnused steps id used) : n ∈ used := by
  induction steps generalizing id used
  case zero => exact absurd h (Nat.not_lt.2 hn)
  case succ steps ih =>
    simp only [leastUnused] at h
    split at h
    case isFalse => exact absurd h (Nat.not_lt.2 hn)
    case isTrue hm =>
      cases Nat.eq_or_lt_of_le hn
      case inl he => exact he ▸ hm
      case inr hlt => exact List.mem_of_mem_erase (ih hlt h)

end Registry

end TapPort
