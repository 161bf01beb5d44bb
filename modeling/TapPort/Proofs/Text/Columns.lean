import Mathlib.Algebra.BigOperators.Group.Finset.Basic
import Mathlib.Data.List.SplitBy
import TapPort.Proofs.Text.Words

namespace TapPort.Text

-- How wide a column of a block is, the gap behind it aside.
def columnWidth (rows : List (List (List Char))) (i : Nat) : Nat :=
  (rows.map fun row => width (row.getD i [])).foldl max columnMin

-- A line with its cells filled up to these widths and a gap, all but the last.
def fillRow (widths : Nat → Nat) : List (List Char) → List Char
  | [] => []
  | [cell] => cell
  | cell :: next :: rest => fillCell (widths 0) cell ++ fillRow (widths ∘ Nat.succ) (next :: rest)

-- How far from its start a line has the cell at place `i`.
def offset (widths : Nat → Nat) (i : Nat) : Nat := ∑ j ∈ Finset.range i, (widths j + columnGap)

-- That a line has a word right there, with nothing but blanks next to it.
def StartsAt (place : Nat) (word line : List Char) : Prop :=
  ∃ front rest, line = front ++ word ++ rest ∧ front.length = place ∧
    (∀ c ∈ front.getLast?, isBlank c = true) ∧ ∀ c ∈ rest.head?, isBlank c = true

-- Lines of which those in the middle have the same number of cells, and the others have one.
structure Block (k : Nat) (above rows below : List (List (List Char))) : Prop where
  ne_nil : rows ≠ []
  above : ∀ line ∈ above, line.length = 1
  rows : ∀ row ∈ rows, row.length = k + 1
  below : ∀ line ∈ below, line.length = 1

variable {widths : Nat → Nat} {w : Nat} {cell : List Char} {row : List (List Char)}

section Rows

-- That the columns are wide enough for the cells.
def Fits (widths : Nat → Nat) (row : List (List Char)) : Prop :=
  ∀ i, ∀ cell ∈ row[i]?, width cell ≤ widths i

theorem Fits.tail (h : Fits widths (cell :: row)) : Fits (widths ∘ Nat.succ) row :=
  fun i c hc => h (i + 1) c hc

theorem fillCell_eq (h : width cell ≤ w) :
    fillCell w cell = cell ++ List.replicate (w - width cell + 1 + 1) ' ' := by
  rw [fillCell, columnGap, Nat.sub_add_comm h]

theorem length_fillCell (hp : Printed cell) (h : width cell ≤ w) :
    (fillCell w cell).length = w + columnGap := by
  rw [fillCell, List.length_append, List.length_replicate, ← hp.width_eq]
  omega

theorem words_fillRow (hp : ∀ cell ∈ row, Printed cell) (h : Fits widths row) :
    words (fillRow widths row) = row := by
  fun_induction fillRow widths row
  case case1 => rfl
  case case2 cell => exact (hp cell List.mem_cons_self).words_eq
  case case3 widths cell next rest ih =>
    have ⟨hc, hr⟩ := List.forall_mem_cons.1 hp
    rw [fillCell_eq (h 0 cell rfl), List.append_assoc, hc.words_append, ih hr h.tail]

theorem eq_space_or_mem_of_mem_fillRow {c : Char} (h : c ∈ fillRow widths row) :
    c = ' ' ∨ ∃ cell ∈ row, c ∈ cell := by
  fun_induction fillRow widths row
  case case1 => cases h
  case case2 cell => exact .inr ⟨cell, List.mem_cons_self, h⟩
  case case3 widths cell next rest ih =>
    rw [fillCell, List.mem_append, List.mem_append] at h
    rcases h with (hc | hs) | hr
    case inl.inl => exact .inr ⟨cell, List.mem_cons_self, hc⟩
    case inl.inr => exact .inl (List.eq_of_mem_replicate hs)
    case inr =>
      refine (ih hr).imp_right ?_
      rintro ⟨cell', hm, hc⟩
      exact ⟨cell', List.mem_cons_of_mem _ hm, hc⟩

theorem offset_succ (widths : Nat → Nat) (i : Nat) :
    offset widths (i + 1) = widths 0 + columnGap + offset (widths ∘ Nat.succ) i := by
  rw [offset, Finset.sum_range_succ', Nat.add_comm]
  rfl

theorem StartsAt.append {place : Nat} {word line front : List Char}
    (h : StartsAt place word line) (hf : ∀ c ∈ front.getLast?, isBlank c = true) :
    StartsAt (front.length + place) word (front ++ line) := by
  have ⟨before, rest, hl, hp, hb, hr⟩ := h
  refine ⟨front ++ before, rest, ?_, ?_, ?_, hr⟩
  case refine_1 =>
    rw [hl]
    simp only [List.append_assoc]
  case refine_2 => rw [List.length_append, hp]
  case refine_3 =>
    intro c hc
    rw [List.getLast?_append] at hc
    cases hg : before.getLast?
    case none => exact hf c (by simpa [hg] using hc)
    case some d => exact hb c (by simpa [hg] using hc)

theorem startsAt_fillRow (hp : ∀ cell ∈ row, Printed cell) (h : Fits widths row) {j : Nat}
    (hj : row[j]? = some cell) : StartsAt (offset widths j) cell (fillRow widths row) := by
  fun_induction fillRow widths row generalizing j
  case case1 => cases hj
  case case2 cell' =>
    cases j
    case zero =>
      cases hj
      exact ⟨[], [], by simp, rfl, nofun, nofun⟩
    case succ j => cases hj
  case case3 widths cell' next rest ih =>
    have ⟨hc, hr⟩ := List.forall_mem_cons.1 hp
    have hw : width cell' ≤ widths 0 := h 0 cell' rfl
    cases j
    case zero =>
      cases hj
      rw [fillCell_eq hw, List.replicate_succ, List.append_assoc, List.cons_append]
      refine ⟨[], _, rfl, rfl, nofun, fun c hc => ?_⟩
      cases hc
      rfl
    case succ j =>
      rw [offset_succ, ← length_fillCell hc hw]
      refine (ih hr h.tail hj).append ?_
      rw [fillCell_eq hw, List.replicate_succ', ← List.append_assoc, List.getLast?_concat]
      intro c hc
      cases hc
      rfl

end Rows

section Alignment

variable {above rows below lines : List (List (List Char))} {k : Nat} {xs ys : List (Option Nat)}

theorem le_foldl_max (ns : List Nat) (m : Nat) :
    m ≤ ns.foldl max m ∧ ∀ n ∈ ns, n ≤ ns.foldl max m := by
  induction ns generalizing m
  case nil => exact ⟨Nat.le_refl m, nofun⟩
  case cons n ns ih =>
    have ⟨hm, hn⟩ := ih (max m n)
    exact ⟨by grind, List.forall_mem_cons.2 ⟨by grind, hn⟩⟩

theorem widenRuns_append (h : ∀ x ∈ xs.getLast?, ∀ y ∈ ys.head?, x.isSome ≠ y.isSome) :
    widenRuns (xs ++ ys) = widenRuns xs ++ widenRuns ys := by
  have hs := List.splitBy_append (fun x hx y hy => beq_eq_false_iff_ne.2 (h x hx y hy))
  rw [widenRuns, hs, List.flatMap_append]
  rfl

-- A run by itself: all are present, or none is.
theorem widenRuns_run (h : ∀ x ∈ xs, ∀ y ∈ xs, x.isSome = y.isSome) :
    widenRuns xs = xs.map fun x => x.map fun _ => (xs.filterMap id).foldl max columnMin := by
  by_cases hn : xs = []
  case pos => rw [hn]; rfl
  case neg =>
    have hc : xs.IsChain fun x y => (x.isSome == y.isSome) = true :=
      (List.pairwise_of_forall_mem_list fun x hx y hy => beq_iff_eq.2 (h x hx y hy)).isChain
    rw [widenRuns, List.splitBy_of_isChain hn hc]
    exact List.append_nil _

theorem widenRuns_replicate_none (n : Nat) :
    widenRuns (List.replicate n none) = List.replicate n none := by
  have h : ∀ x ∈ List.replicate n (none : Option Nat), ∀ y ∈ List.replicate n (none : Option Nat),
      x.isSome = y.isSome := by
    intro x hx y hy
    rw [List.eq_of_mem_replicate hx, List.eq_of_mem_replicate hy]
  rw [widenRuns_run h, List.map_replicate]
  rfl

theorem widenRuns_map_some (ws : List Nat) :
    widenRuns (ws.map some) = ws.map fun _ => some (ws.foldl max columnMin) := by
  have h : ∀ x ∈ ws.map some, ∀ y ∈ ws.map some, x.isSome = y.isSome := by
    simp only [List.mem_map]
    rintro _ ⟨x, -, rfl⟩ _ ⟨y, -, rfl⟩
    rfl
  rw [widenRuns_run h, List.map_map, List.filterMap_map, Function.id_comp, List.filterMap_some]
  rfl

-- A column that starts and ends.
theorem widenRuns_between {ws : List Nat} (hn : ws ≠ []) (m n : Nat) :
    widenRuns (List.replicate m none ++ ws.map some ++ List.replicate n none) =
      List.replicate m none ++ (ws.map fun _ => some (ws.foldl max columnMin)) ++
        List.replicate n none := by
  have habsent {m : Nat} : ∀ x ∈ List.replicate m (none : Option Nat), x.isSome = false :=
    fun x hx => List.eq_of_mem_replicate hx ▸ rfl
  have hpresent : ∀ x ∈ ws.map some, x.isSome = true := by
    rintro _ hx
    obtain ⟨w, -, rfl⟩ := List.mem_map.1 hx
    rfl
  have hstart : widenRuns (List.replicate m none ++ ws.map some) =
      widenRuns (List.replicate m none) ++ widenRuns (ws.map some) := by
    refine widenRuns_append fun x hx y hy => ?_
    rw [habsent x (List.mem_of_getLast? hx), hpresent y (List.mem_of_mem_head? hy)]
    exact Bool.false_ne_true
  have hend : widenRuns (List.replicate m none ++ ws.map some ++ List.replicate n none) =
      widenRuns (List.replicate m none ++ ws.map some) ++ widenRuns (List.replicate n none) := by
    refine widenRuns_append fun x hx y hy => ?_
    rw [List.getLast?_append_of_ne_nil _ (by simpa using hn)] at hx
    rw [hpresent x (List.mem_of_getLast? hx), habsent y (List.mem_of_mem_head? hy)]
    exact Bool.false_ne_true.symm
  rw [hend, hstart, widenRuns_replicate_none, widenRuns_map_some, widenRuns_replicate_none]

-- Lines without a cell for the column, or with none behind it, are not part of it.
theorem map_absent {i : Nat} (f : List (List Char) → Option Nat)
    (h : ∀ line ∈ lines, line.length ≤ i + 1) :
    (lines.map fun line => if i + 1 < line.length then f line else none) =
      List.replicate lines.length none := by
  rw [← List.map_const']
  exact List.map_congr_left fun line hm => if_neg (Nat.not_lt.2 (h line hm))

namespace Block

theorem map_rows {i : Nat} (h : Block k above rows below) (hi : i < k)
    (f : List (List Char) → Option Nat) :
    (rows.map fun row => if i + 1 < row.length then f row else none) = rows.map f :=
  List.map_congr_left fun row hm => if_pos (by rw [h.rows row hm]; omega)

-- A column of a block, line by line.
theorem columnWidths_eq (h : Block k above rows below) (i : Nat) :
    columnWidths (above ++ rows ++ below) i = (above ++ rows ++ below).map fun line =>
      if i + 1 < line.length then some (columnWidth rows i) else none := by
  by_cases hi : i < k
  case neg =>
    have hl : ∀ line ∈ above ++ rows ++ below, line.length ≤ i + 1 := by
      have ha := h.above
      have hr := h.rows
      have hb := h.below
      grind
    rw [columnWidths, map_absent _ hl, map_absent _ hl, widenRuns_replicate_none]
  case pos =>
    have ha : ∀ line ∈ above, line.length ≤ i + 1 := fun l hl => by rw [h.above l hl]; omega
    have hb : ∀ line ∈ below, line.length ≤ i + 1 := fun l hl => by rw [h.below l hl]; omega
    have hw : (rows.map fun row => row[i]?.map width) =
        (rows.map fun row => width (row.getD i [])).map some := by
      rw [List.map_map]
      refine List.map_congr_left fun row hm => ?_
      have hl : i < row.length := by rw [h.rows row hm]; omega
      rw [Function.comp, List.getD_eq_getElem?_getD, List.getElem?_eq_getElem hl]
      rfl
    simp only [columnWidths, List.map_append]
    rw [map_absent _ ha, map_absent _ ha, map_absent _ hb, map_absent _ hb, h.map_rows hi,
      h.map_rows hi, hw, widenRuns_between (by simpa using h.ne_nil), List.map_map]
    rfl

end Block

theorem fillRow_eq (widths : Nat → Nat) (row : List (List Char)) :
    fillRow widths row = (row.mapIdx fun i cell =>
      if i + 1 < row.length then fillCell (widths i) cell else cell).flatten := by
  fun_induction fillRow widths row
  case case1 => rfl
  case case2 cell => simp
  case case3 widths cell next rest ih =>
    rw [List.mapIdx_cons, List.flatten_cons, ih, if_pos (by simp)]
    simp

theorem fillLine_eq {ws : List (Option Nat)} {line : List (List Char)}
    (h : ∀ i < line.length, ws[i]?.join = if i + 1 < line.length then some (widths i) else none) :
    fillLine ws line = fillRow widths line := by
  rw [fillLine, fillRow_eq]
  congr 1
  apply List.ext_getElem
  case hl => simp
  case h =>
    intro i _ hi
    rw [List.length_mapIdx] at hi
    simp only [List.getElem_mapIdx, List.getElem_map, List.getElem_zipIdx, Nat.zero_add, h i hi]
    by_cases hl : i + 1 < line.length
    case pos => simp only [if_pos hl]
    case neg => simp only [if_neg hl]

theorem Block.toList_align {text : String} (h : Block k above rows below)
    (ht : cells text.toList = above ++ rows ++ below) :
    (align text).toList = ['\n'].intercalate
      ((above ++ rows ++ below).map (fillRow (columnWidth rows))) := by
  rw [align, String.toList_ofList, ht]
  congr 1
  apply List.ext_getElem
  case hl => simp
  case h =>
    intro r hr _
    rw [List.length_map, List.length_zipIdx] at hr
    rw [List.getElem_map, List.getElem_map, List.getElem_zipIdx, Nat.zero_add]
    refine fillLine_eq fun i hi => ?_
    have hm : (above ++ rows ++ below)[r].length ∈ (above ++ rows ++ below).map List.length :=
      List.mem_map_of_mem (List.getElem_mem hr)
    have hp := Nat.lt_of_lt_of_le hi ((le_foldl_max _ 0).2 _ hm)
    simp only [List.getElem?_map, List.getElem?_range hp, Option.map_some, Option.join_some,
      h.columnWidths_eq, List.getElem?_eq_getElem hr]

theorem fits_columnWidth (hm : row ∈ rows) : Fits (columnWidth rows) row := by
  intro i cell hi
  have hw : width cell ∈ rows.map fun row => width (row.getD i []) := by
    refine List.mem_map.2 ⟨row, hm, ?_⟩
    rw [List.getD_eq_getElem?_getD, Option.mem_def.1 hi, Option.getD_some]
  exact (le_foldl_max _ columnMin).2 _ hw

theorem not_mem_intercalate {c sep : Char} (hs : c ≠ sep) (h : ∀ cell ∈ row, c ∉ cell) :
    c ∉ [sep].intercalate row := by
  induction row
  case nil => exact List.not_mem_nil
  case cons cell rest ih =>
    have ⟨hc, hr⟩ := List.forall_mem_cons.1 h
    cases rest
    case nil => rwa [List.intercalate_singleton]
    case cons next rest =>
      rw [List.intercalate_cons_cons, List.mem_append, List.mem_append, List.mem_singleton]
      exact not_or.2 ⟨not_or.2 ⟨hc, hs⟩, ih hr⟩

theorem cells_intercalate (hl : lines ≠ [])
    (hc : ∀ line ∈ lines, line ≠ [] ∧ ∀ cell ∈ line, '\n' ∉ cell ∧ '\t' ∉ cell) :
    cells (['\n'].intercalate (lines.map ['\t'].intercalate)) = lines := by
  have hn : ∀ line ∈ lines.map ['\t'].intercalate, '\n' ∉ line := by
    intro line hm
    obtain ⟨row, hr, rfl⟩ := List.mem_map.1 hm
    exact not_mem_intercalate (by decide) fun cell h => ((hc row hr).2 cell h).1
  rw [cells, splitAt_eq_splitOn, List.splitOn_intercalate _ hn (by simpa using hl), List.map_map]
  refine (List.map_congr_left fun line hm => ?_).trans lines.map_id
  have ⟨hne, ht⟩ := hc line hm
  exact (splitAt_eq_splitOn ..).trans (List.splitOn_intercalate _ (fun cell h => (ht cell h).2) hne)

end Alignment

end TapPort.Text
