/-!
# Grids of characters

A standard set of characters gives each of them a place by its row and its cell, 94 cells a row. The
characters of a set are kept as runs of neighbours, and looked up in an array.
-/

namespace PriorArt

/-- Characters in places that follow one another, from the first one on. -/
structure GridRun where
  first : Nat
  chars : String

/-- The characters of a set by their places. -/
structure Grid where
  cells : Array (Option Char)

namespace Grid

def ofRuns (runs : List GridRun) : Grid where
  cells := runs.foldl (fun cells run =>
    cells ++ Array.replicate (run.first - cells.size) none ++
      (run.chars.toList.map some).toArray) #[]

def at? (grid : Grid) (place : Nat) : Option Char :=
  grid.cells[place]?.join

def rowSize : Nat := 94

def ofHigh? (grid : Grid) (row cell : UInt8) : Option Char :=
  if 0xA1 ≤ row && row ≤ 0xFE && 0xA1 ≤ cell && cell ≤ 0xFE then
    grid.at? ((row.toNat - 0xA1) * rowSize + (cell.toNat - 0xA1))
  else none

/-- The characters from one on, so many of them, that are in no place of a grid, in their order. -/
def missing (grid : Grid) (first count : Nat) : Array Char :=
  let present := grid.cells.foldl (fun present cell =>
    match cell with
    | some c => if first ≤ c.toNat then present.setIfInBounds (c.toNat - first) true else present
    | none => present) (Array.replicate count false)
  ((List.range count).filterMap fun n =>
    if present.getD n false then none else some (Char.ofNat (first + n))).toArray

end Grid

end PriorArt
