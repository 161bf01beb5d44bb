import TapPort.Text.Width

namespace TapPort.Text

def columnGap : Nat := 2

-- No column is narrower than this, its gap aside.
def columnMin : Nat := 2

-- The parts of a list between the separators; there is one more than there are separators.
def splitAt {α : Type} [BEq α] (sep : α) : List α → List (List α)
  | [] => [[]]
  | c :: rest =>
    if c == sep then [] :: splitAt sep rest
    else match splitAt sep rest with
      | part :: parts => (c :: part) :: parts
      | [] => [[c]]

def cells (text : List Char) : List (List (List Char)) :=
  (splitAt '\n' text).map (splitAt '\t')

-- Gives each run of present widths the largest of the run. A column goes on through the lines above
-- and below for as long as they have a cell in that place that another one follows.
def widenRuns (widths : List (Option Nat)) : List (Option Nat) :=
  (widths.splitBy fun a b => a.isSome == b.isSome).flatMap fun run =>
    let widest := (run.filterMap id).foldl max columnMin
    run.map fun w => w.map fun _ => widest

-- The width of the column at place `i` in each line; a line without a cell in it has none.
def columnWidths (lines : List (List (List Char))) (i : Nat) : List (Option Nat) :=
  widenRuns (lines.map fun row => if i + 1 < row.length then row[i]?.map width else none)

-- A cell filled up with spaces to the width of its column and a gap.
def fillCell (columnWidth : Nat) (cell : List Char) : List Char :=
  cell ++ List.replicate (columnWidth + columnGap - width cell) ' '

-- A line with every cell but the last filled up.
def fillLine (widths : List (Option Nat)) (line : List (List Char)) : List Char :=
  (line.zipIdx.map fun (cell, i) =>
    match widths[i]?.join with
    | some w => fillCell w cell
    | none => cell).flatten

-- The text with its cells in columns and without tabs.
def align (text : String) : String :=
  let lines := cells text.toList
  let places := (lines.map List.length).foldl max 0
  let widths := (List.range places).map (columnWidths lines)
  let filled := lines.zipIdx.map fun (line, r) =>
    fillLine (widths.map fun column => column[r]?.join) line
  String.ofList (List.intercalate ['\n'] filled)

end TapPort.Text
