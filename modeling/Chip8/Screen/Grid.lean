import Chip8.Screen.Pixel

set_option autoImplicit false

/-!
The 128x64 cells behind the screen, row after row. `Grid.cell` is the view through which all
laws are stated: it gives the cell at a column and a row, and a dark one outside. `cell_ofCells`,
`cell_map` and `cell_updateBlock` say what each operation does to that view, and `ext_cell` that
the view determines the grid.
-/

namespace Chip8

/-- The cells, the upper left one first. -/
structure Grid where
  cells : Vector Pixel 8192
  deriving DecidableEq

namespace Grid

def dark : Grid :=
  ⟨Vector.replicate 8192 Pixel.dark⟩

/-- The cell at a column and a row; outside the grid it is dark. -/
def cell (grid : Grid) (column row : Nat) : Pixel :=
  if inside : column < 128 ∧ row < 64 then grid.cells[row * 128 + column] else Pixel.dark

def ofCells (content : Nat → Nat → Pixel) : Grid :=
  ⟨Vector.ofFn fun index => content (index.val % 128) (index.val / 128)⟩

def map (grid : Grid) (change : Pixel → Pixel) : Grid :=
  ⟨grid.cells.map change⟩

def update (grid : Grid) (column row : Nat) (change : Pixel → Pixel) : Grid :=
  if inside : column < 128 ∧ row < 64 then
    ⟨grid.cells.set (row * 128 + column) (change grid.cells[row * 128 + column])⟩
  else grid

def updateRow (grid : Grid) (column row : Nat) (change : Pixel → Pixel) : Nat → Grid
  | 0 => grid
  | count + 1 => (grid.update (column + count) row change).updateRow column row change count

/-- A change of every cell in a block, given by its upper left cell, width and height. -/
def updateBlock (grid : Grid) (column row width : Nat) (change : Pixel → Pixel) : Nat → Grid
  | 0 => grid
  | count + 1 =>
      (grid.updateRow column (row + count) change width).updateBlock column row width change count

def shiftDown (grid : Grid) (rows : Nat) : Grid :=
  ofCells fun column row => if row < rows then Pixel.dark else grid.cell column (row - rows)

def shiftRight (grid : Grid) (columns : Nat) : Grid :=
  ofCells fun column row =>
    if column < columns then Pixel.dark else grid.cell (column - columns) row

def shiftLeft (grid : Grid) (columns : Nat) : Grid :=
  ofCells fun column row => grid.cell (column + columns) row

/-! ### The view -/

theorem cell_inside (grid : Grid) {column row : Nat} (inside : column < 128 ∧ row < 64) :
    grid.cell column row = grid.cells[row * 128 + column] :=
  dif_pos inside

theorem cell_outside (grid : Grid) {column row : Nat} (outside : ¬(column < 128 ∧ row < 64)) :
    grid.cell column row = Pixel.dark :=
  dif_neg outside

theorem cell_dark (column row : Nat) : dark.cell column row = Pixel.dark := by
  by_cases inside : column < 128 ∧ row < 64
  · rw [cell_inside dark inside]
    simp [dark]
  · exact cell_outside dark inside

theorem cell_ofCells (content : Nat → Nat → Pixel) {column row : Nat}
    (inside : column < 128 ∧ row < 64) :
    (ofCells content).cell column row = content column row := by
  have rowOf : (row * 128 + column) / 128 = row := by omega
  have columnOf : (row * 128 + column) % 128 = column := by omega
  rw [cell_inside _ inside]
  simp only [ofCells, Vector.getElem_ofFn, rowOf, columnOf]

theorem cell_map (grid : Grid) (change : Pixel → Pixel) {column row : Nat}
    (inside : column < 128 ∧ row < 64) :
    (grid.map change).cell column row = change (grid.cell column row) := by
  rw [cell_inside _ inside, cell_inside _ inside]
  simp only [map, Vector.getElem_map]

theorem cell_update (grid : Grid) (change : Pixel → Pixel) {column row : Nat}
    (inside : column < 128 ∧ row < 64) (otherColumn otherRow : Nat) :
    (grid.update column row change).cell otherColumn otherRow =
      if otherColumn = column ∧ otherRow = row then change (grid.cell column row)
      else grid.cell otherColumn otherRow := by
  by_cases same : otherColumn = column ∧ otherRow = row
  · rcases same with ⟨rfl, rfl⟩
    rw [cell_inside _ inside, cell_inside _ inside]
    simp [update, inside]
  · rw [if_neg same]
    by_cases otherInside : otherColumn < 128 ∧ otherRow < 64
    · have apart : row * 128 + column ≠ otherRow * 128 + otherColumn := by omega
      rw [cell_inside _ otherInside, cell_inside _ otherInside]
      simp [update, inside, Vector.getElem_set_ne, apart]
    · rw [cell_outside _ otherInside, cell_outside _ otherInside]

theorem cell_updateRow (grid : Grid) (change : Pixel → Pixel) (column row count : Nat)
    (fits : column + count ≤ 128) (inside : row < 64) (otherColumn otherRow : Nat) :
    (grid.updateRow column row change count).cell otherColumn otherRow =
      if (column ≤ otherColumn ∧ otherColumn < column + count) ∧ otherRow = row then
        change (grid.cell otherColumn otherRow)
      else grid.cell otherColumn otherRow := by
  induction count generalizing grid with
  | zero => rw [updateRow, if_neg (by omega)]
  | succ count rest =>
      rw [updateRow, rest _ (by omega), cell_update _ _ ⟨by omega, inside⟩]
      by_cases last : otherColumn = column + count ∧ otherRow = row
      · rcases last with ⟨rfl, rfl⟩
        rw [if_neg (by omega), if_pos ⟨rfl, rfl⟩, if_pos ⟨⟨by omega, by omega⟩, rfl⟩]
      · rw [if_neg last]
        by_cases among : (column ≤ otherColumn ∧ otherColumn < column + count) ∧ otherRow = row
        · rw [if_pos among, if_pos (by omega)]
        · rw [if_neg among, if_neg (by omega)]

/-- A block update changes the cells of the block, each once, and no other. -/
theorem cell_updateBlock (grid : Grid) (change : Pixel → Pixel) (column row width count : Nat)
    (fitsAcross : column + width ≤ 128) (fitsDown : row + count ≤ 64)
    (otherColumn otherRow : Nat) :
    (grid.updateBlock column row width change count).cell otherColumn otherRow =
      if (column ≤ otherColumn ∧ otherColumn < column + width) ∧
          (row ≤ otherRow ∧ otherRow < row + count) then
        change (grid.cell otherColumn otherRow)
      else grid.cell otherColumn otherRow := by
  induction count generalizing grid with
  | zero => rw [updateBlock, if_neg (by omega)]
  | succ count rest =>
      rw [updateBlock, rest _ (by omega), cell_updateRow _ _ _ _ _ fitsAcross (by omega)]
      by_cases last : otherRow = row + count
      · subst last
        by_cases across : column ≤ otherColumn ∧ otherColumn < column + width
        · rw [if_neg (by omega), if_pos ⟨across, rfl⟩, if_pos ⟨across, by omega⟩]
        · rw [if_neg (by omega), if_neg (by omega), if_neg (by omega)]
      · have apart : ¬((column ≤ otherColumn ∧ otherColumn < column + width) ∧
            otherRow = row + count) := by omega
        rw [if_neg apart]
        by_cases among : (column ≤ otherColumn ∧ otherColumn < column + width) ∧
            (row ≤ otherRow ∧ otherRow < row + count)
        · rw [if_pos among, if_pos (by omega)]
        · rw [if_neg among, if_neg (by omega)]

theorem ext_cell {left right : Grid}
    (same : ∀ column row, column < 128 → row < 64 → left.cell column row = right.cell column row) :
    left = right := by
  cases left with
  | mk leftCells =>
    cases right with
    | mk rightCells =>
      congr 1
      apply Vector.ext
      intro index inRange
      have inside : index % 128 < 128 ∧ index / 128 < 64 := by omega
      have position : index / 128 * 128 + index % 128 = index := by omega
      have equal := same (index % 128) (index / 128) inside.1 inside.2
      rw [cell_inside _ inside, cell_inside _ inside] at equal
      simpa only [position] using equal

end Grid

end Chip8
