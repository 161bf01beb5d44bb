import Mathlib.Data.List.Nodup
import TapPort.Proofs.Json.Layout
import TapPort.Report.Encoding

namespace TapPort.Json

theorem mapM_map_of_read {α β : Type} {write : α → β} {read : β → Option α}
    (h : ∀ x, read (write x) = some x) (xs : List α) : (xs.map write).mapM read = some xs := by
  induction xs
  case nil => rfl
  case cons x xs ih => simp [h, ih]

theorem eq_map_of_mapM {α β : Type} {write : α → β} {read : β → Option α}
    (h : ∀ b x, read b = some x → b = write x) {bs : List β} {xs : List α}
    (hm : bs.mapM read = some xs) : bs = xs.map write := by
  induction bs generalizing xs
  case nil => cases hm; rfl
  case cons b bs ih =>
    simp only [List.mapM_cons, Option.bind_eq_bind, Option.bind_eq_some_iff, Option.pure_def,
      Option.some.injEq] at hm
    have ⟨x, hx, ys, hy, he⟩ := hm
    rw [← he, List.map_cons, ← h b x hx, ← ih hy]

-- That an encoding holds all there is to a value: it has one text, and is decoded to that value.
structure Faithful {α : Type} (write : α → Json) (read : Json → Option α) : Prop where
  exact : ∀ x, Exact (write x)
  read_write : ∀ x, read (write x) = some x

namespace Faithful

variable {α : Type} {write : α → Json} {read : Json → Option α}

theorem required? (h : Faithful write read) (x : α) :
    Json.required? read (some (write x)) = some x := h.read_write x

theorem decode (h : Faithful write read) {x : α} {text : String}
    (ht : parse text = some (write x)) : (parse text).bind read = some x := by
  rw [ht, Option.bind_some, h.read_write]

theorem items (h : Faithful write read) :
    Faithful (fun xs => arr (xs.map write)) (fun j => j.items?.bind (·.mapM read)) where
  exact _ := .arr fun _ hj => have ⟨x, _, hx⟩ := List.mem_map.1 hj; hx ▸ h.exact x
  read_write xs := mapM_map_of_read h.read_write xs

end Faithful

theorem nat?_nat {bound n : Nat} (h : n < bound) : (nat n).nat? bound = some n := if_pos h

theorem faithful_text : Faithful text text? := ⟨.text, fun _ => rfl⟩

theorem faithful_bool : Faithful bool bool? := ⟨.bool, fun _ => rfl⟩

theorem faithful_uint8 : Faithful (fun n => nat n.toNat) uint8? where
  exact _ := .int _
  read_write n := by simp [uint8?, nat?_nat n.toNat_lt_size]

theorem faithful_uint16 : Faithful (fun n => nat n.toNat) uint16? where
  exact _ := .int _
  read_write n := by simp [uint16?, nat?_nat n.toNat_lt_size]

theorem faithful_uint32 : Faithful (fun n => nat n.toNat) uint32? where
  exact _ := .int _
  read_write n := by simp [uint32?, nat?_nat n.toNat_lt_size]

theorem faithful_uint64 : Faithful (fun n => nat n.toNat) uint64? where
  exact _ := .int _
  read_write n := by simp [uint64?, nat?_nat n.toNat_lt_size]

theorem faithful_counts : Faithful ofCounts counts? := faithful_uint64.items

section Fields

variable {names : List String} {closed : Bool} {fields : List (String × Json)}

-- The name of a field, where it is known, with the value.
def known? (f : Option String × Json) : Option (String × Json) := f.1.map fun name => (name, f.2)

theorem eq_named_of_known? {f : Option String × Json} {g : String × Json} (h : known? f = some g) :
    f = named g := by
  have ⟨name, hn, hg⟩ := Option.map_eq_some_iff.1 h
  rw [← hg, named, ← hn]

theorem mapM_known? (fields : List (String × Json)) :
    (fields.map named).mapM known? = some fields :=
  @mapM_map_of_read _ _ named known? (fun _ => rfl) fields

theorem fields?_named (names : List String) (closed : Bool) (fields : List (String × Json)) :
    (obj (fields.map named)).fields? names closed =
      let known := fields.filter fun f => names.contains f.1
      if closed && known.length != fields.length then none
      else if names.any fun name => 1 < (known.filter (·.1 == name)).length then none
      else some (names.map fun name => known.lookup name) :=
  congrArg (Option.bind · _) (mapM_known? fields)

theorem length_filter_name (name : String) (fields : List (String × Json)) :
    (fields.filter (·.1 == name)).length = (fields.map Prod.fst).count name := by
  rw [← List.countP_eq_length_filter, List.count, List.countP_map]
  rfl

theorem filter_contains (hk : ∀ f ∈ fields, f.1 ∈ names) :
    fields.filter (fun f => names.contains f.1) = fields := by
  rw [List.filter_eq_self]
  exact fun f hf => List.contains_iff_mem.2 (hk f hf)

theorem fields?_ofFields (hk : ∀ f ∈ fields, f.1 ∈ names) (hn : (fields.map Prod.fst).Nodup) :
    (ofFields fields).fields? names closed = some (names.map fun name => fields.lookup name) := by
  have hc : ¬names.any (fun name => 1 < (fields.filter (·.1 == name)).length) := by
    simp only [List.any_eq_true, decide_eq_true_eq, length_filter_name, not_exists, not_and,
      Nat.not_lt]
    exact fun name _ => List.nodup_iff_count_le_one.1 hn name
  refine (fields?_named names closed fields).trans ?_
  simp only [filter_contains hk, bne_self_eq_false, Bool.and_false, Bool.false_eq_true, if_false,
    if_neg hc]

theorem fields?_of_unknown {f : String × Json} (hf : f ∈ fields) (hn : f.1 ∉ names) :
    (ofFields fields).fields? names true = none := by
  have hl : (fields.filter fun f => names.contains f.1).length < fields.length :=
    List.length_filter_lt_length_iff_exists.2 ⟨f, hf, by simpa using hn⟩
  refine (fields?_named names true fields).trans (if_pos ?_)
  simpa using Nat.ne_of_lt hl

theorem fields?_of_repeated (hk : ∀ f ∈ fields, f.1 ∈ names)
    (hn : ¬(fields.map Prod.fst).Nodup) : (ofFields fields).fields? names true = none := by
  simp only [List.nodup_iff_count_le_one, not_forall, Nat.not_le] at hn
  have ⟨name, hc⟩ := hn
  have ⟨f, hf, he⟩ := List.mem_map.1 (List.count_pos_iff.1 (Nat.zero_lt_of_lt hc))
  have ha : names.any (fun name => 1 < (fields.filter (·.1 == name)).length) := by
    simp only [List.any_eq_true, decide_eq_true_eq, length_filter_name]
    exact ⟨name, he ▸ hk f hf, hc⟩
  refine (fields?_named names true fields).trans ?_
  simp only [filter_contains hk, if_pos ha, ite_self]

-- Fields that are not all known, or that come more than once, are refused.
theorem fields?_eq_none {fs : List (Option String × Json)}
    (h : ¬((∀ f ∈ fs, f.1 ∈ names.map some) ∧ (fs.map Prod.fst).Nodup)) :
    (obj fs).fields? names true = none := by
  cases hm : fs.mapM known?
  case none => exact congrArg (Option.bind · _) hm
  case some fields =>
    have he := eq_map_of_mapM (fun _ _ => eq_named_of_known?) hm
    subst he
    by_cases hk : ∀ f ∈ fields, f.1 ∈ names
    case pos =>
      have hn : ¬(fields.map Prod.fst).Nodup := by
        intro hn
        have hi := hn.map fun _ _ he => Option.some.inj he
        rw [List.map_map] at hi
        refine h ⟨fun f hf => ?_, by rwa [List.map_map]⟩
        have ⟨g, hg, he⟩ := List.mem_map.1 hf
        exact he ▸ List.mem_map_of_mem (hk g hg)
      exact fields?_of_repeated hk hn
    case neg =>
      simp only [not_forall] at hk
      have ⟨f, hf, hn⟩ := hk
      exact fields?_of_unknown hf hn

theorem map_lookup_zip {values : List Json} (hn : names.Nodup)
    (hl : names.length = values.length) :
    (names.map fun name => (names.zip values).lookup name) = values.map some := by
  induction names generalizing values
  case nil => cases values <;> [rfl; cases hl]
  case cons name names ih =>
    cases values
    case nil => cases hl
    case cons j values =>
      have ⟨hm, hn⟩ := List.nodup_cons.1 hn
      have hr : ∀ other ∈ names,
          ((name, j) :: names.zip values).lookup other = (names.zip values).lookup other := by
        intro other ho
        have he : (other == name) = false := beq_false_of_ne fun he => hm (he ▸ ho)
        rw [List.lookup_cons, he]
      rw [List.zip_cons_cons, List.map_cons, List.map_cons, List.map_congr_left hr,
        ih hn (Nat.succ.inj hl), List.lookup_cons_self]

-- An object with a value for each name is read as those values.
theorem fields?_zip {values : List Json} (hn : names.Nodup) (hl : names.length = values.length) :
    (ofFields (names.zip values)).fields? names closed = some (values.map some) := by
  have hk : (names.zip values).map Prod.fst = names := List.map_fst_zip (Nat.le_of_eq hl)
  rw [fields?_ofFields (fun _ hf => (List.of_mem_zip hf).1) (by rwa [hk]), map_lookup_zip hn hl]

-- A structure is encoded by its values, each under its name.
theorem Faithful.ofFields {α : Type} {values : α → List Json}
    {read : List (Option Json) → Option α} (hn : names.Nodup)
    (hl : ∀ x, names.length = (values x).length) (he : ∀ x, ∀ j ∈ values x, Exact j)
    (hr : ∀ x, read ((values x).map some) = some x) :
    Faithful (fun x => ofFields (names.zip (values x)))
      (fun j => (j.fields? names closed).bind read) where
  exact x := .ofFields fun f hf => he x f.2 (List.of_mem_zip hf).2
  read_write x := by rw [fields?_zip hn (hl x), Option.bind_some, hr]

end Fields

end TapPort.Json
