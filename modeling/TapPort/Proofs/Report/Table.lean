import Mathlib.Data.List.Forall2
import TapPort.Proofs.Text.Columns
import TapPort.Report.Table

namespace TapPort

open Text (words StartsAt)

theorem mapM_eq_some_map {α β : Type} {f : α → Option β} {g : α → β} {xs : List α}
    (h : ∀ x ∈ xs, f x = some (g x)) : xs.mapM f = some (xs.map g) := by
  induction xs
  case nil => rfl
  case cons x xs ih =>
    have ⟨hx, hxs⟩ := List.forall_mem_cons.1 h
    rw [List.mapM_cons, hx, ih hxs]
    rfl

namespace Table

def chars (row : List String) : List (List Char) := row.map String.toList

-- How a row of these is shown.
def line (rows : List (List String)) (row : List String) : String :=
  String.ofList (Text.fillRow (Text.columnWidth (rows.map chars)) (chars row))

-- Where a column of these starts.
def place (rows : List (List String)) (i : Nat) : Nat :=
  Text.offset (Text.columnWidth (rows.map chars)) i

-- That a row is a number of printed words.
structure Regular (k : Nat) (row : List String) : Prop where
  length : row.length = k
  printed : ∀ cell ∈ row, Text.Printed cell.toList

variable {k : Nat} {titles cells : List String} {rows : List (List String)}

theorem toList_lines (ls : List String) :
    (String.join (ls.map (· ++ "\n"))).toList =
      ['\n'].intercalate (ls.map String.toList ++ [[]]) := by
  induction ls
  case nil => rfl
  case cons l ls ih =>
    rw [List.map_cons, String.join_cons, String.toList_append, ih, List.map_cons, List.cons_append,
      List.intercalate_cons_of_ne_nil (by simp), String.toList_append]
    rfl

-- The lines of a text are between its line ends.
theorem splitOn_lines {ls : List String} (h : ∀ l ∈ ls, '\n' ∉ l.toList) :
    ((String.join (ls.map (· ++ "\n"))).toList.splitOn '\n').dropLast = ls.map String.toList := by
  have hs : ∀ l ∈ ls.map String.toList ++ [[]], '\n' ∉ l := by
    intro l hm
    rcases List.mem_append.1 hm with hm | hm
    case inl =>
      obtain ⟨l, hl, rfl⟩ := List.mem_map.1 hm
      exact h l hl
    case inr =>
      rw [List.mem_singleton.1 hm]
      exact List.not_mem_nil
  rw [toList_lines, List.splitOn_intercalate _ hs (by simp), List.dropLast_concat]

theorem toList_row (cells : List String) : (row cells).toList = ['\t'].intercalate (chars cells) :=
  String.toList_intercalate

namespace Regular

theorem chars_printed (h : Regular k cells) : ∀ cell ∈ chars cells, Text.Printed cell := by
  intro cell hm
  obtain ⟨c, hc, rfl⟩ := List.mem_map.1 hm
  exact h.printed c hc

theorem words_line (h : Regular k cells) (hm : cells ∈ rows) :
    words (line rows cells).toList = chars cells := by
  rw [line, String.toList_ofList]
  exact Text.words_fillRow h.chars_printed (Text.fits_columnWidth (List.mem_map_of_mem hm))

theorem startsAt_line (h : Regular k cells) (hm : cells ∈ rows) {i : Nat} {cell : String}
    (hi : cells[i]? = some cell) :
    StartsAt (place rows i) cell.toList (line rows cells).toList := by
  rw [line, String.toList_ofList]
  refine Text.startsAt_fillRow h.chars_printed (Text.fits_columnWidth (List.mem_map_of_mem hm)) ?_
  rw [chars, List.getElem?_map, hi]
  rfl

-- A line has no end inside.
theorem not_mem_line (h : Regular k cells) : '\n' ∉ (line rows cells).toList := by
  rw [line, String.toList_ofList]
  intro hm
  rcases Text.eq_space_or_mem_of_mem_fillRow hm with hs | ⟨cell, hc, hm⟩
  case inl => cases hs
  case inr => exact (h.chars_printed cell hc).not_mem (by decide) hm

end Regular

-- The cells of a table: a title is the only cell of its line, and so is what is behind the last
-- line end.
theorem cells_join (hr : ∀ cells ∈ rows, Regular (k + 1) cells)
    (ht : ∀ title ∈ titles, '\n' ∉ title.toList ∧ '\t' ∉ title.toList) :
    Text.cells (String.join ((titles ++ rows.map row).map (· ++ "\n"))).toList =
      (titles.map fun title : String => [title.toList]) ++ rows.map chars ++ [[[]]] := by
  have hl : (titles ++ rows.map row).map String.toList ++ [[]] =
      ((titles.map fun title : String => [title.toList]) ++ rows.map chars ++ [[[]]]).map
        ['\t'].intercalate := by
    simp [Function.comp_def, toList_row]
  rw [toList_lines, hl]
  apply Text.cells_intercalate (by simp)
  intro line hm
  simp only [List.mem_append, List.mem_map, List.mem_singleton] at hm
  rcases hm with (⟨title, hm, rfl⟩ | ⟨cells, hm, rfl⟩) | rfl
  case inl.inl => simpa using ht title hm
  case inl.inr =>
    have hc := hr cells hm
    refine ⟨?_, fun cell h => ?_⟩
    case refine_1 =>
      rw [← List.length_pos_iff, chars, List.length_map, hc.length]
      exact Nat.succ_pos k
    case refine_2 =>
      have hp := hc.chars_printed cell h
      exact ⟨hp.not_mem (by decide), hp.not_mem (by decide)⟩
  case inr => simp

theorem render_eq (hn : rows ≠ []) (hr : ∀ cells ∈ rows, Regular (k + 1) cells)
    (ht : ∀ title ∈ titles, '\n' ∉ title.toList ∧ '\t' ∉ title.toList) :
    render (titles ++ rows.map row) =
      String.join ((titles ++ rows.map (line rows)).map (· ++ "\n")) := by
  have hb : Text.Block k (titles.map fun title : String => [title.toList]) (rows.map chars)
      [[[]]] := by
    refine ⟨by simpa using hn, by simp, ?_, by simp⟩
    intro cells hm
    obtain ⟨r, hr', rfl⟩ := List.mem_map.1 hm
    rw [chars, List.length_map, (hr r hr').length]
  rw [render, ← String.toList_inj, hb.toList_align (cells_join hr ht), toList_lines]
  simp [Function.comp_def, line, Text.fillRow]

end Table

namespace PortStats

-- What the table shows for a queue.
def queueCounters (s : PortStats) (i : Nat) : QueueCounters where
  ipackets := s.queueIpackets.getD i 0
  opackets := s.queueOpackets.getD i 0
  ibytes := s.queueIbytes.getD i 0
  obytes := s.queueObytes.getD i 0
  errors := s.queueErrors.getD i 0

-- What the table shows for all queues.
def totalCounters (s : PortStats) : QueueCounters where
  ipackets := s.ipackets
  opackets := s.opackets
  ibytes := s.ibytes
  obytes := s.obytes
  errors := s.oerrors

-- A row of counters, as decimal numbers.
def countRow (label : String) (c : QueueCounters) : List String :=
  label :: [c.ipackets, c.ibytes, c.opackets, c.obytes, c.errors].map fun n => toString n.toNat

-- What the table of so many queues shows, and for what.
def shownCounters (s : PortStats) (queues : Nat) : List (String × QueueCounters) :=
  (List.range queues).map (fun i => (toString i, s.queueCounters i)) ++
    [("TOTAL", s.totalCounters)]

def tableRows (s : PortStats) (queues : Nat) : List (List String) :=
  ["QUEUE", "IPACKETS", "IBYTES", "OPACKETS", "OBYTES", "ERRORS"] ::
    (s.shownCounters queues).map fun (label, c) => countRow label c

-- The counters in a line, from its second word on.
def counters? (line : List Char) : Option QueueCounters := do
  match ← ((words line).drop 1).mapM Text.natOfDigits? with
  | [ipackets, ibytes, opackets, obytes, errors] =>
    pure {
      ipackets := .ofNat ipackets
      opackets := .ofNat opackets
      ibytes := .ofNat ibytes
      obytes := .ofNat obytes
      errors := .ofNat errors }
  | _ => none

-- The statistics that show these for the queues and for all of them.
def ofShown (queues : List QueueCounters) (totals : QueueCounters) : PortStats where
  ipackets := totals.ipackets
  opackets := totals.opackets
  ibytes := totals.ibytes
  obytes := totals.obytes
  oerrors := totals.errors
  queueIpackets := queues.map (·.ipackets)
  queueOpackets := queues.map (·.opackets)
  queueIbytes := queues.map (·.ibytes)
  queueObytes := queues.map (·.obytes)
  queueErrors := queues.map (·.errors)

-- Statistics from the lines of their table. The first three are passed over, and the last one has
-- the totals.
def ofTable? (text : String) : Option PortStats := do
  let shown ← ((text.toList.splitOn '\n').dropLast.drop 3).mapM counters?
  let totals ← shown.getLast?
  pure (ofShown shown.dropLast totals)

-- What a line says, and where.
structure Shows (place : Nat → Nat) (cells : List String) (line : String) : Prop where
  words : words line.toList = cells.map String.toList
  startsAt : ∀ i, ∀ cell ∈ cells[i]?, StartsAt (place i) cell.toList line.toList

variable {s : PortStats} {n : Nat}

theorem regular_countRow {label : String} (h : Text.Printed label.toList) (c : QueueCounters) :
    Table.Regular 6 (countRow label c) where
  length := rfl
  printed := by simp [countRow, h, Text.printed_toDigits]

theorem counters?_eq_some {line : List Char} {label : String} {c : QueueCounters}
    (h : words line = Table.chars (countRow label c)) : counters? line = some c := by
  rw [counters?, h]
  simp [Table.chars, countRow, Text.natOfDigits?_toDigits]

theorem printed_head (cell : String)
    (hm : cell ∈ ["QUEUE", "IPACKETS", "IBYTES", "OPACKETS", "OBYTES", "ERRORS"]) :
    Text.Printed cell.toList := by
  have hp : ∀ cell ∈ ["QUEUE", "IPACKETS", "IBYTES", "OPACKETS", "OBYTES", "ERRORS"],
      cell.toList ≠ [] ∧
        cell.toList.all (fun c => 0x20 < c.toNat && c.toNat < 0x7f) = true := by decide
  exact .ofAll (hp cell hm).1 (hp cell hm).2

theorem regular_tableRows (s : PortStats) (n : Nat) :
    ∀ cells ∈ s.tableRows n, Table.Regular 6 cells := by
  refine List.forall_mem_cons.2 ⟨⟨rfl, printed_head⟩, List.forall_mem_map.2 ?_⟩
  intro (label, c) hm
  refine regular_countRow ?_ c
  simp only [shownCounters, List.mem_append, List.mem_map, List.mem_singleton,
    Prod.mk.injEq] at hm
  rcases hm with ⟨i, -, rfl, -⟩ | ⟨rfl, -⟩
  case inl =>
    rw [Nat.toString_eq_repr, Nat.toList_repr]
    exact Text.printed_toDigits i
  case inr => exact .ofAll (by decide) (by decide)

theorem queueRow?_eq (h : ∀ counts ∈ s.queueLists, counts.length = n) {i : Nat} (hi : i < n) :
    s.queueRow? i = some (Table.row (countRow (toString i) (s.queueCounters i))) := by
  have hc : ∀ counts ∈ [s.queueIpackets, s.queueIbytes, s.queueOpackets, s.queueObytes,
      s.queueErrors], counts[i]? = some (counts.getD i 0) := by
    intro counts hm
    have hl : counts.length = n := h counts (by revert hm; simp [queueLists]; grind)
    rw [List.getD_eq_getElem?_getD, List.getElem?_eq_getElem (hl ▸ hi), Option.getD_some]
  rw [queueRow?, mapM_eq_some_map hc]
  rfl

theorem table?_eq (h : ∀ counts ∈ s.queueLists, counts.length = n) :
    s.table? = some (Table.render
      (["Statistics", Table.rule '-'] ++ (s.tableRows n).map Table.row)) := by
  have hl : s.queueIpackets.length = n := h _ (by simp [queueLists])
  rw [table?, hl, mapM_eq_some_map fun i hi => queueRow?_eq h (List.mem_range.1 hi)]
  simp [Function.comp_def, tableRows, shownCounters, countRow, totalCounters]

theorem map_range_getD {counts : List UInt64} (h : counts.length = n) :
    (List.range n).map (counts.getD · 0) = counts := by
  apply List.ext_getElem
  case hl => rw [List.length_map, List.length_range, h]
  case h =>
    intro i _ hi
    rw [List.getElem_map, List.getElem_range, List.getD_eq_getElem?_getD,
      List.getElem?_eq_getElem hi, Option.getD_some]

theorem ofShown_eq (h : ∀ counts ∈ s.queueLists, counts.length = n) :
    ofShown ((List.range n).map s.queueCounters) s.totalCounters = s := by
  have hq (counts : List UInt64) (hm : counts ∈ s.queueLists) := map_range_getD (h counts hm)
  simp only [queueLists, List.forall_mem_cons] at hq
  have ⟨hi, ho, hib, hob, he, _⟩ := hq
  cases s
  simp only [ofShown, List.map_map, mk.injEq]
  exact ⟨rfl, rfl, rfl, rfl, rfl, hi, ho, hib, hob, he⟩

theorem mapM_counters? {shown : List String → String}
    (hw : ∀ cells ∈ s.tableRows n, words (shown cells).toList = Table.chars cells) :
    (((s.tableRows n).map (String.toList ∘ shown)).drop 1).mapM counters? =
      some ((s.shownCounters n).map Prod.snd) := by
  have ⟨_, hc⟩ := List.forall_mem_cons.1 hw
  rw [tableRows, List.map_cons, List.drop_one, List.tail_cons, List.map_map, List.mapM_map]
  exact mapM_eq_some_map fun e he => counters?_eq_some (hc _ (List.mem_map_of_mem he))

-- Lines with the right words are enough to read the statistics.
theorem ofTable?_join (h : ∀ counts ∈ s.queueLists, counts.length = n)
    {shown : List String → String} {title rule : String}
    (hl : ∀ line ∈ [title, rule] ++ (s.tableRows n).map shown, '\n' ∉ line.toList)
    (hw : ∀ cells ∈ s.tableRows n, words (shown cells).toList = Table.chars cells) :
    ofTable? (String.join (([title, rule] ++ (s.tableRows n).map shown).map (· ++ "\n"))) =
      some s := by
  have hd : (([title, rule] ++ (s.tableRows n).map shown).map String.toList).drop 3 =
      ((s.tableRows n).map (String.toList ∘ shown)).drop 1 := by simp
  rw [ofTable?, Table.splitOn_lines hl, hd, mapM_counters? hw]
  simp [shownCounters, Function.comp_def, ofShown_eq h]

-- Whatever the counters are, as long as there are as many of each kind: the table has two lines
-- and under them the rows, on a line each. The words of a line are the cells of its row, each of
-- them at the place that the column has in all lines, and they are enough to have the statistics
-- back.
theorem table_reads_back (h : ∀ counts ∈ s.queueLists, counts.length = n) :
    ∃ (text : String) (body : List String) (place : Nat → Nat), s.table? = some text ∧
      text = String.join
        (("Statistics" :: String.ofList (List.replicate 70 '-') :: body).map (· ++ "\n")) ∧
      (∀ line ∈ body, '\n' ∉ line.toList) ∧ body.length = n + 2 ∧
      List.Forall₂ (Shows place) (s.tableRows n) body ∧ ofTable? text = some s := by
  let rows := s.tableRows n
  have hr : ∀ cells ∈ rows, Table.Regular (5 + 1) cells := regular_tableRows s n
  have ht : ∀ title ∈ ["Statistics", Table.rule '-'],
      '\n' ∉ title.toList ∧ '\t' ∉ title.toList := by decide
  have hx : Table.render (["Statistics", Table.rule '-'] ++ rows.map Table.row) = _ :=
    Table.render_eq (List.cons_ne_nil _ _) hr ht
  have hl : ∀ line ∈ rows.map (Table.line rows), '\n' ∉ line.toList :=
    List.forall_mem_map.2 fun cells hm => (hr cells hm).not_mem_line
  refine ⟨_, rows.map (Table.line rows), Table.place rows, table?_eq h, hx, hl, ?_, ?_, ?_⟩
  case refine_1 => simp [rows, tableRows, shownCounters]
  case refine_2 =>
    rw [List.forall₂_map_right_iff, List.forall₂_same]
    intro cells hm
    exact ⟨(hr cells hm).words_line hm, fun i cell => (hr cells hm).startsAt_line hm⟩
  case refine_3 =>
    rw [hx]
    refine ofTable?_join h (List.forall_mem_append.2 ⟨fun l hm => (ht l hm).1, hl⟩) ?_
    exact fun cells hm => (hr cells hm).words_line hm

-- Two queues, the second of which received nothing.
theorem table_reads_back_two :
    let s : PortStats := ⟨3, 1, 448, 60, 3, [3, 0], [0, 1], [448, 0], [0, 60], [0, 3]⟩
    (∀ counts ∈ s.queueLists, counts.length = 2) ∧ s.table?.bind ofTable? = some s := by
  intro s
  have h : ∀ counts ∈ s.queueLists, counts.length = 2 := by decide
  have ⟨text, _, _, ht, _, _, _, _, hr⟩ := table_reads_back h
  rw [ht]
  exact ⟨h, hr⟩

end PortStats

end TapPort
