import Mathlib.Data.List.Induction
import TapPort.Proofs.Device.Memory
import TapPort.Proofs.Registry

namespace TapPort

variable {κ δ : Type} [Device δ κ]

-- That a device, in the state in which it is, gives an interface the name that is asked for.
def Device.Grants (dev : δ) : Prop :=
  ∀ {name n h given dev'},
    Device.openQueue (some name) n dev = (.ok (h, given), dev') → given = name

theorem MemoryTap.grants_of_rename {d : MemoryTap} (h : d.rename = none) : Device.Grants d := by
  intro name n id given d' ho
  have ⟨_, _, _, hg, _⟩ := openQueue_ok ho
  simp [hg, nameFor, h]

theorem Port.iface_shutdown (p : Port κ) (dev : δ) : (p.shutdown dev).1.iface = p.iface := by
  rcases p.shutdown_cases dev with ⟨-, h⟩ | ⟨-, h⟩ <;> rw [h]
  case inr => rw [halt_eq]

theorem Port.Making.iface_eq {name iface : String} {id : UInt16} {args : PortArgs} {dev dev' : δ}
    {p : Port κ} (hg : Device.Grants dev) (m : Making name iface id args dev (.ok p, dev')) :
    p.iface = iface := by
  cases m
  case made ho _ => exact hg ho

namespace Registry

inductive Op where
  | probe (name : String) (args : PortArgs)
  | remove (name : String)

-- An operation, and the device as it finds it. Between two operations the ports, and the system
-- itself, may do to the device whatever they like.
structure Call (δ : Type) where
  op : Op
  dev : δ

def after (r : Registry δ κ) (c : Call δ) : Registry δ κ :=
  match c.op with
  | .probe name args => ({ r with dev := c.dev }.probe name args).2
  | .remove name => { r with dev := c.dev }.remove name

def run (r : Registry δ κ) (calls : List (Call δ)) : Registry δ κ := calls.foldl after r

-- The arguments that a call makes a port with, if it makes one.
def granted? (r : Registry δ κ) (c : Call δ) : Option PortArgs :=
  match c.op with
  | .probe name args =>
    match ({ r with dev := c.dev }.probe name args).1 with
    | .ok _ => some args
    | .error _ => none
  | .remove _ => none

-- The arguments of all ports that calls make, the earliest first.
def granted (r : Registry δ κ) : List (Call δ) → List PortArgs
  | [] => []
  | c :: rest => (r.granted? c).toList ++ granted (r.after c) rest

theorem run_concat (r : Registry δ κ) (calls : List (Call δ)) (c : Call δ) :
    r.run (calls ++ [c]) = (r.run calls).after c := by
  simp [run]

theorem granted_concat (r : Registry δ κ) (calls : List (Call δ)) (c : Call δ) :
    r.granted (calls ++ [c]) = r.granted calls ++ ((r.run calls).granted? c).toList := by
  induction calls generalizing r
  case nil => simp [granted, run]
  case cons hd tl ih => simp only [List.cons_append, granted, ih, run, List.foldl_cons,
    List.append_assoc]

section Calls

variable {r : Registry δ κ} {c : Call δ} {args : PortArgs}

theorem interfaces_remove (r : Registry δ κ) (name : String) :
    (r.remove name).ports.map Port.iface = r.ports.map Port.iface := by
  unfold remove
  split
  case h_1 => rfl
  case h_2 place _ =>
    dsimp only
    split
    case h_1 => rfl
    case h_2 p hp =>
      have ⟨hl, hp⟩ := List.getElem?_eq_some_iff.1 hp
      have hl : place < (r.ports.map Port.iface).length := by simpa using hl
      have hi : (p.shutdown r.dev).1.iface = (r.ports.map Port.iface)[place] := by
        rw [p.iface_shutdown, List.getElem_map, hp]
      dsimp only
      rw [List.map_set, hi, List.set_getElem_self]

theorem unit_remove (r : Registry δ κ) (name : String) : (r.remove name).unit = r.unit := by
  unfold remove
  split
  case h_1 => rfl
  case h_2 =>
    dsimp only
    split <;> rfl

-- A call that makes no port leaves the interfaces of all ports as they are.
theorem after_of_not_granted (h : r.granted? c = none) :
    (r.after c).ports.map Port.iface = r.ports.map Port.iface ∧ (r.after c).unit = r.unit := by
  simp only [granted?] at h
  simp only [after]
  cases ho : c.op <;> simp only [ho] at h ⊢
  case probe name args =>
    have hp := probe_probing { r with dev := c.dev } name args
    generalize probe { r with dev := c.dev } name args = result at hp h
    cases hp
    case refused => exact ⟨rfl, rfl⟩
    case failed => exact ⟨rfl, rfl⟩
    case made => cases h
  case remove name => exact ⟨interfaces_remove .., unit_remove ..⟩

theorem after_of_granted (h : r.granted? c = some args) :
    ∃ name id p dev, Port.Making name (r.interfaceFor args).1 id args c.dev (.ok p, dev) ∧
      r.after c =
        ⟨dev, r.ports ++ [p], insert name r.ports.length r.names, (r.interfaceFor args).2⟩ := by
  simp only [granted?] at h
  simp only [after]
  cases ho : c.op <;> simp only [ho] at h ⊢
  case probe name args' =>
    have hp := probe_probing { r with dev := c.dev } name args'
    generalize probe { r with dev := c.dev } name args' = result at hp h
    cases hp
    case made m =>
      cases h
      exact ⟨name, _, _, _, m, rfl⟩
    all_goals cases h
  case remove => cases h

end Calls

-- The number of names that were generated for ports with such arguments.
def generated (before : List PortArgs) : Nat := before.countP (·.iface.isNone)

-- The interface that a port is to be on, after ports with other arguments.
def interfaceAfter (before : List PortArgs) (args : PortArgs) : String :=
  args.iface.getD (generatedName ++ toString (UInt32.ofNat (generated before)))

theorem toString_unit {n : Nat} (h : n < UInt32.size) : toString (UInt32.ofNat n) = toString n :=
  congrArg (toString : Nat → String) (UInt32.toNat_ofNat_of_lt' h)

theorem generatedName_append_inj {m n : Nat}
    (h : generatedName ++ toString m = generatedName ++ toString n) : m = n := by
  have hs : (toString m).toList = (toString n).toList :=
    congrArg String.toList ((String.append_right_inj generatedName).1 h)
  have hd := congrArg (Nat.ofDigitChars 10 · 0) hs
  simpa using hd

-- That a registry is what became of making ports with these arguments, as far as interfaces go.
structure Follows (r : Registry δ κ) (as : List PortArgs) : Prop where
  length : as.length = r.ports.length
  unit : r.unit = UInt32.ofNat (generated as)
  interface : ∀ (place : Nat) (p : Port κ), r.ports[place]? = some p →
    ∃ args, as[place]? = some args ∧ p.iface = interfaceAfter (as.take place) args

namespace Follows

variable {r : Registry δ κ} {c : Call δ} {as : List PortArgs} {args : PortArgs}

omit [Device δ κ] in
theorem interfaceFor_eq (f : r.Follows as) : (r.interfaceFor args).1 = interfaceAfter as args := by
  unfold interfaceFor interfaceAfter
  cases args.iface
  case none => simp [f.unit]
  case some => rfl

theorem after_of_not_granted (f : r.Follows as) (h : r.granted? c = none) :
    (r.after c).Follows as := by
  have ⟨hi, hu⟩ := Registry.after_of_not_granted h
  constructor
  case length =>
    have hl := congrArg List.length hi
    rw [List.length_map, List.length_map] at hl
    rw [hl, f.length]
  case unit => rw [hu, f.unit]
  case interface =>
    intro place p' hp
    have hm : ((r.after c).ports.map Port.iface)[place]? = some p'.iface := by simp [hp]
    rw [hi, List.getElem?_map] at hm
    have ⟨p, hp, he⟩ := Option.map_eq_some_iff.1 hm
    exact he ▸ f.interface place p hp

theorem after_of_granted (f : r.Follows as) (hg : Device.Grants c.dev)
    (h : r.granted? c = some args) : (r.after c).Follows (as ++ [args]) := by
  have ⟨name, id, p, dev, m, ha⟩ := Registry.after_of_granted h
  rw [ha]
  constructor
  case length => simp [f.length]
  case unit =>
    unfold interfaceFor
    cases hi : args.iface <;> simp [generated, hi, f.unit]
  case interface =>
    intro place q hq
    rw [List.getElem?_append] at hq
    split at hq
    case isTrue hl =>
      have ⟨args', ha, hi⟩ := f.interface place q hq
      have hl := (List.getElem?_eq_some_iff.1 ha).1
      refine ⟨args', ?_, ?_⟩
      case refine_1 => rw [List.getElem?_append_left hl, ha]
      case refine_2 => rw [hi, List.take_append_of_le_length (Nat.le_of_lt hl)]
    case isFalse hl =>
      rw [List.getElem?_singleton] at hq
      split at hq
      case isTrue hz =>
        have hl : place = as.length := by
          rw [f.length]
          omega
        cases hq
        refine ⟨args, ?_, ?_⟩
        case refine_1 => rw [hl, List.getElem?_concat_length]
        case refine_2 => rw [hl, List.take_left, m.iface_eq hg, f.interfaceFor_eq]
      case isFalse => cases hq

theorem run (dev : δ) {calls : List (Call δ)} (hg : ∀ c ∈ calls, Device.Grants c.dev) :
    ((ofDevice dev).run calls).Follows ((ofDevice dev : Registry δ κ).granted calls) := by
  induction calls using List.reverseRecOn
  case nil => exact ⟨rfl, rfl, by simp [Registry.run, ofDevice]⟩
  case append_singleton calls c ih =>
    replace ih := ih fun c hc => hg c (List.mem_append_left _ hc)
    rw [run_concat, granted_concat]
    cases h : ((ofDevice dev : Registry δ κ).run calls).granted? c
    case none =>
      rw [Option.toList_none, List.append_nil]
      exact ih.after_of_not_granted h
    case some args => exact ih.after_of_granted (hg c (by simp)) h

end Follows

theorem generated_take_lt {before : List PortArgs} {place : Nat} {args : PortArgs}
    (h : before[place]? = some args) (hi : args.iface = none) :
    generated (before.take place) < generated before := by
  have ⟨hl, ha⟩ := List.getElem?_eq_some_iff.1 h
  have hd : generated before = generated (before.take place) + generated (before.drop place) := by
    rw [generated, generated, generated, ← List.countP_append, List.take_append_drop]
  have hp : 0 < generated (before.drop place) := by
    rw [List.drop_eq_getElem_cons hl, ha]
    simp [generated, hi]
  omega

theorem mem_registered_of_granted {r : Registry δ κ} {c : Call δ} {args : PortArgs}
    (h : r.granted? c = some args) :
    ∃ p, (r.after c).ports[r.ports.length]? = some p ∧ p ∈ (r.after c).registered := by
  have ⟨name, id, p, dev, _, ha⟩ := after_of_granted h
  have hp : (r.after c).ports[r.ports.length]? = some p := by
    rw [ha]
    exact List.getElem?_concat_length
  refine ⟨p, hp, List.mem_filterMap.2 ⟨(name, r.ports.length), ?_, hp⟩⟩
  rw [ha]
  exact mem_insert.2 (.inl rfl)

omit [Device δ κ] in
theorem Follows.iface_eq_iff {r : Registry δ κ} {before after : List PortArgs} {place : Nat}
    {q : Port κ} (f : r.Follows (before ++ after)) (hq : r.ports[place]? = some q)
    (hl : place < before.length) (hu : generated before < UInt32.size) :
    ∃ args, before[place]? = some args ∧
      (q.iface = generatedName ++ toString (generated before) ↔
        args.iface = some (generatedName ++ toString (generated before))) := by
  have ⟨args, ha, hi⟩ := f.interface place q hq
  rw [List.getElem?_append_left hl] at ha
  rw [List.take_append_of_le_length (Nat.le_of_lt hl), interfaceAfter] at hi
  refine ⟨args, ha, ?_⟩
  cases hs : args.iface
  case some name => simp [hi, hs]
  case none =>
    have hn := generated_take_lt ha hs
    refine iff_of_false ?_ nofun
    rw [hi, hs, Option.getD_none, toString_unit (hn.trans hu)]
    exact fun he => Nat.ne_of_lt hn (generatedName_append_inj he)

-- As long as the numbers do not come round again, a name that was generated is the interface of no
-- other port, of all that were ever made, except where the arguments of that port asked for it by
-- name.
theorem interface_of_generated (dev : δ) {calls : List (Call δ)} {c : Call δ} {args : PortArgs}
    (hg : ∀ c' ∈ calls ++ [c], Device.Grants c'.dev)
    (ha : ((ofDevice dev : Registry δ κ).run calls).granted? c = some args)
    (hi : args.iface = none)
    (hu : generated ((ofDevice dev : Registry δ κ).granted calls) < UInt32.size) :
    let r : Registry δ κ := (ofDevice dev).run calls
    let before := (ofDevice dev : Registry δ κ).granted calls
    ∃ p, (r.after c).ports[r.ports.length]? = some p ∧ p ∈ (r.after c).registered ∧
      p.iface = generatedName ++ toString (generated before) ∧
      ∀ (place : Nat) (q : Port κ),
        (r.after c).ports[place]? = some q → place ≠ r.ports.length →
          ∃ args, before[place]? = some args ∧ (q.iface = p.iface ↔ args.iface = some p.iface) := by
  dsimp only
  have fb := Follows.run (κ := κ) dev fun c' hc => hg c' (List.mem_append_left _ hc)
  have f := fb.after_of_granted (hg c (by simp)) ha
  generalize (ofDevice dev : Registry δ κ).granted calls = before at *
  generalize (ofDevice dev : Registry δ κ).run calls = r at *
  have ⟨p, hp, hr⟩ := mem_registered_of_granted ha
  have ⟨args', hl, hn⟩ := f.interface _ p hp
  rw [← fb.length, List.getElem?_concat_length] at hl
  cases hl
  rw [← fb.length, List.take_left, interfaceAfter, hi, Option.getD_none, toString_unit hu] at hn
  refine ⟨p, hp, hr, hn, ?_⟩
  intro place q hq hne
  have hl : place < before.length := by
    have hs := (List.getElem?_eq_some_iff.1 hq).1
    rw [← f.length, List.length_append, List.length_singleton] at hs
    have := fb.length
    omega
  rw [hn]
  exact f.iface_eq_iff hq hl hu

-- The calls that operations make on a registry when nothing else happens to the device.
def alone (r : Registry δ κ) : List Op → List (Call δ)
  | [] => []
  | op :: rest => ⟨op, r.dev⟩ :: alone (r.after ⟨op, r.dev⟩) rest

def ofInterface (iface : Option String) : PortArgs := { PortArgs.default with iface }

-- A port on an interface that was asked for and one on a generated one, and the first is removed.
def mixedCalls : List (Call MemoryTap) :=
  alone (ofDevice .default)
    [.probe "a" (ofInterface "dtap7"), .probe "b" (ofInterface none), .remove "a"]

def lastCall : Call MemoryTap :=
  ⟨.probe "c" (ofInterface none), ((ofDevice .default).run mixedCalls).dev⟩

theorem grants_of_renames {calls : List (Call MemoryTap)} (h : ∀ c ∈ calls, c.dev.rename = none) :
    ∀ c ∈ calls, Device.Grants c.dev :=
  fun c hc => MemoryTap.grants_of_rename (h c hc)

theorem interface_of_generated_mixed :
    (∀ c ∈ mixedCalls ++ [lastCall], Device.Grants c.dev) ∧
      ((ofDevice .default).run mixedCalls).granted? lastCall = some (ofInterface none) ∧
      (ofInterface none).iface = none ∧
      generated ((ofDevice .default).granted mixedCalls) < UInt32.size ∧
      ∃ p, (((ofDevice .default).run mixedCalls).after lastCall).ports[2]? = some p ∧
        p.iface = "dtap1" ∧
        ∀ (place : Nat) (q : Port Nat),
          (((ofDevice .default).run mixedCalls).after lastCall).ports[place]? = some q →
            place ≠ 2 → q.iface ≠ p.iface := by
  have hg : ∀ c ∈ mixedCalls ++ [lastCall], Device.Grants c.dev :=
    grants_of_renames (by decide +kernel)
  have ha : ((ofDevice .default).run mixedCalls).granted? lastCall = some (ofInterface none) := by
    decide +kernel
  have hl : ((ofDevice .default).run mixedCalls).ports.length = 2 := by decide +kernel
  have hc : generated ((ofDevice .default).granted mixedCalls) = 1 := by decide +kernel
  have hn : ∀ args ∈ (ofDevice .default).granted mixedCalls, args.iface ≠ some "dtap1" := by
    decide +kernel
  have hu : generated ((ofDevice .default).granted mixedCalls) < UInt32.size := hc ▸ by decide
  have ⟨p, hp, _, hi, ho⟩ := interface_of_generated .default hg ha rfl hu
  rw [hl] at hp ho
  replace hi : p.iface = "dtap1" := by
    rw [hi, hc]
    rfl
  refine ⟨hg, ha, rfl, hu, p, hp, hi, ?_⟩
  intro place q hq hne he
  have ⟨args, hm, hs⟩ := ho place q hq hne
  exact hn args (List.mem_of_getElem? hm) (hi ▸ hs.1 he)

-- A name can be asked for before it is generated, and two ports are then on one interface.
def takenCalls : List (Call MemoryTap) :=
  alone (ofDevice .default) [.probe "a" (ofInterface "dtap0"), .probe "b" (ofInterface none)]

theorem generated_name_taken :
    (∀ c ∈ takenCalls, Device.Grants c.dev) ∧
      (ofDevice .default).granted takenCalls = [ofInterface "dtap0", ofInterface none] ∧
      ((ofDevice .default).run takenCalls).registered.map (fun p => (p.name, p.iface)) =
        [("a", "dtap0"), ("b", "dtap0")] := by
  refine ⟨grants_of_renames ?_, ?_, ?_⟩
  all_goals decide +kernel

end Registry

end TapPort
