import Chip8.Proofs.Toggling
import Chip8.Proofs.Words
import Mathlib.Data.List.OfFn
import Mathlib.Data.Nat.Bitwise

set_option autoImplicit false

/-!
The screen in an array of cells, with every place in it computed from sizes that can be too large
and looked up where it can be missing. Drawing goes dot by dot and breaks off at the edges, and
scrolling copies cells within the array.

Main statements: at every resolution each of these finds all its cells, and leaves the array of
the screen that the machine has.
-/

namespace Chip8
namespace Words

/-! ### Blocks of cells -/

def cornerPlace? (resolution : Resolution) (x y : Nat) : Option Nat := do
  let row ← mulSize? y resolution.cellsDown
  let start ← mulSize? row 128
  let column ← mulSize? x resolution.cellsAcross
  addSize? start column

def cellPlace? (resolution : Resolution) (x y across down : Nat) : Option Nat := do
  let firstRow ← mulSize? y resolution.cellsDown
  let row ← addSize? firstRow down
  let start ← mulSize? row 128
  let firstColumn ← mulSize? x resolution.cellsAcross
  let column ← addSize? start firstColumn
  addSize? column across

/-- The cells of a block counted from its upper left one, row by row. -/
def blockCells (resolution : Resolution) : List (Nat × Nat) :=
  (List.range resolution.cellsDown).flatMap fun down =>
    (List.range resolution.cellsAcross).map fun across => (across, down)

def isOnAt? (resolution : Resolution) (cells : Array Pixel) (x y : Nat) : Option Bool := do
  let place ← cornerPlace? resolution x y
  let pixel ← cells[place]?
  some pixel.on

def changeCells? (resolution : Resolution) (x y : Nat) (change : Pixel → Pixel) :
    List (Nat × Nat) → Array Pixel → Option (Array Pixel)
  | [], cells => some cells
  | (across, down) :: rest, cells => do
      let place ← cellPlace? resolution x y across down
      let pixel ← cells[place]?
      let changed ← replace? cells place (change pixel)
      changeCells? resolution x y change rest changed

def flip? (resolution : Resolution) (filter : Filter) (cells : Array Pixel) (x y : Nat) :
    Option (Array Pixel × Bool) := do
  let wasOn ← isOnAt? resolution cells x y
  let change := if wasOn then Pixel.turnOff filter else Pixel.turnOn
  let flipped ← changeCells? resolution x y change (blockCells resolution) cells
  some (flipped, wasOn)

section Blocks

variable (resolution : Resolution) {x y : Nat} (column : x < resolution.width)
  (row : y < resolution.height)

include column row

theorem cornerPlace?_eq :
    cornerPlace? resolution x y =
      some (y * resolution.cellsDown * 128 + x * resolution.cellsAcross) := by
  obtain ⟨across, down⟩ := resolution.corner_inside column row
  unfold cornerPlace?
  rw [mulSize?_eq (by unfold sizeLimit; omega), some_bind,
    mulSize?_eq (by unfold sizeLimit; omega), some_bind,
    mulSize?_eq (by unfold sizeLimit; omega), some_bind,
    addSize?_eq (by unfold sizeLimit; omega)]

theorem cellPlace?_eq {across down : Nat} (inBlock : across < resolution.cellsAcross)
    (inBlockDown : down < resolution.cellsDown) :
    cellPlace? resolution x y across down =
      some ((y * resolution.cellsDown + down) * 128 + (x * resolution.cellsAcross + across)) := by
  have columnFits := resolution.column_fits column
  have rowFits := resolution.row_fits row
  unfold cellPlace?
  rw [mulSize?_eq (by unfold sizeLimit; omega), some_bind,
    addSize?_eq (by unfold sizeLimit; omega), some_bind,
    mulSize?_eq (by unfold sizeLimit; omega), some_bind,
    mulSize?_eq (by unfold sizeLimit; omega), some_bind,
    addSize?_eq (by unfold sizeLimit; omega), some_bind,
    addSize?_eq (by unfold sizeLimit; omega), Nat.add_assoc]

end Blocks

theorem mem_blockCells (resolution : Resolution) (cell : Nat × Nat) :
    cell ∈ blockCells resolution ↔
      cell.1 < resolution.cellsAcross ∧ cell.2 < resolution.cellsDown := by
  rcases cell with ⟨across, down⟩
  simp [blockCells, and_comm]

theorem nodup_blockCells (resolution : Resolution) : (blockCells resolution).Nodup := by
  cases resolution <;> decide

theorem cell_foldl_update (change : Pixel → Pixel) (places : List (Nat × Nat))
    (distinct : places.Nodup) (inside : ∀ place ∈ places, place.1 < 128 ∧ place.2 < 64)
    (grid : Grid) (column row : Nat) :
    (places.foldl (fun grid place => grid.update place.1 place.2 change) grid).cell column row =
      if (column, row) ∈ places then change (grid.cell column row)
      else grid.cell column row := by
  induction places generalizing grid with
  | nil => rw [if_neg List.not_mem_nil]; rfl
  | cons head rest ih =>
      obtain ⟨fresh, distinctRest⟩ := List.nodup_cons.mp distinct
      have insideRest : ∀ place ∈ rest, place.1 < 128 ∧ place.2 < 64 :=
        fun place member => inside place (List.mem_cons_of_mem _ member)
      rw [List.foldl_cons, ih distinctRest insideRest,
        Grid.cell_update _ _ (inside head List.mem_cons_self)]
      rcases head with ⟨headColumn, headRow⟩
      by_cases same : column = headColumn ∧ row = headRow
      · obtain ⟨rfl, rfl⟩ := same
        rw [if_neg fresh, if_pos ⟨rfl, rfl⟩, if_pos List.mem_cons_self]
      · have member : (column, row) ∈ (headColumn, headRow) :: rest ↔ (column, row) ∈ rest := by
          simp [same]
        simp only [if_neg same, member]

private theorem place_lt {column row : Nat} (inside : column < 128 ∧ row < 64) :
    row * 128 + column < 8192 := by
  omega

theorem getElem?_cells (grid : Grid) {column row : Nat} (inside : column < 128 ∧ row < 64) :
    grid.cells.toArray[row * 128 + column]? = some (grid.cell column row) := by
  rw [Vector.getElem?_toArray, Vector.getElem?_eq_getElem (place_lt inside),
    Grid.cell_inside grid inside]

theorem replace?_cells (grid : Grid) {column row : Nat} (inside : column < 128 ∧ row < 64)
    (change : Pixel → Pixel) :
    replace? grid.cells.toArray (row * 128 + column) (change (grid.cell column row)) =
      some (grid.update column row change).cells.toArray := by
  rw [replace?_toArray grid.cells (place_lt inside), Grid.update, dif_pos inside,
    Grid.cell_inside grid inside]

section Toggling

variable (resolution : Resolution) {x y : Nat} (column : x < resolution.width)
  (row : y < resolution.height)

include column row

theorem changeCells?_eq (change : Pixel → Pixel) (offsets : List (Nat × Nat))
    (inBlock : ∀ offset ∈ offsets,
      offset.1 < resolution.cellsAcross ∧ offset.2 < resolution.cellsDown) (grid : Grid) :
    changeCells? resolution x y change offsets grid.cells.toArray =
      some ((offsets.map fun offset =>
          (x * resolution.cellsAcross + offset.1, y * resolution.cellsDown + offset.2)).foldl
        (fun grid place => grid.update place.1 place.2 change) grid).cells.toArray := by
  have columnFits := resolution.column_fits column
  have rowFits := resolution.row_fits row
  induction offsets generalizing grid with
  | nil => rfl
  | cons head rest ih =>
      rcases head with ⟨across, down⟩
      obtain ⟨inAcross, inDown⟩ := inBlock (across, down) List.mem_cons_self
      simp only at inAcross inDown
      have inside : x * resolution.cellsAcross + across < 128 ∧
          y * resolution.cellsDown + down < 64 := by
        omega
      rw [changeCells?, cellPlace?_eq resolution column row inAcross inDown,
        some_bind, getElem?_cells grid inside, some_bind,
        replace?_cells grid inside, some_bind,
        ih fun offset member => inBlock offset (List.mem_cons_of_mem _ member)]
      rfl

theorem changeBlock?_eq (change : Pixel → Pixel) (grid : Grid) :
    changeCells? resolution x y change (blockCells resolution) grid.cells.toArray =
      some (grid.updateBlock (x * resolution.cellsAcross) (y * resolution.cellsDown)
        resolution.cellsAcross change resolution.cellsDown).cells.toArray := by
  have columnFits := resolution.column_fits column
  have rowFits := resolution.row_fits row
  rw [changeCells?_eq resolution column row change (blockCells resolution)
    fun offset member => (mem_blockCells resolution offset).mp member]
  -- the two orders of changing the cells of a block are compared at each cell
  refine congrArg (fun grid : Grid => some grid.cells.toArray) (Grid.ext_cell ?_)
  intro cellColumn cellRow _ _
  rw [Grid.cell_updateBlock _ _ _ _ _ _ columnFits rowFits, cell_foldl_update]
  · refine ite_congr (propext ?_) (fun _ => rfl) (fun _ => rfl)
    rw [List.mem_map]
    constructor
    · rintro ⟨offset, member, same⟩
      obtain ⟨inAcross, inDown⟩ := (mem_blockCells resolution offset).mp member
      cases same
      omega
    · rintro ⟨⟨fromLeft, _⟩, fromTop, _⟩
      refine ⟨(cellColumn - x * resolution.cellsAcross, cellRow - y * resolution.cellsDown),
        (mem_blockCells resolution _).mpr ⟨by omega, by omega⟩, ?_⟩
      simp only [Nat.add_sub_cancel' fromLeft, Nat.add_sub_cancel' fromTop]
  · refine (nodup_blockCells resolution).map ?_
    rintro ⟨across, down⟩ ⟨otherAcross, otherDown⟩ same
    simp only [Prod.mk.injEq] at same ⊢
    omega
  · intro place member
    obtain ⟨offset, inBlock, rfl⟩ := List.mem_map.mp member
    obtain ⟨inAcross, inDown⟩ := (mem_blockCells resolution offset).mp inBlock
    simp only
    omega

theorem flip?_eq (filter : Filter) (grid : Grid) :
    flip? resolution filter grid.cells.toArray x y =
      some ((Screen.toggle resolution filter grid x y).1.cells.toArray,
        (Screen.toggle resolution filter grid x y).2) := by
  have inside := resolution.corner_inside column row
  rw [flip?, isOnAt?, cornerPlace?_eq resolution column row]
  simp only [some_bind, getElem?_cells grid inside,
    changeBlock?_eq resolution column row]
  rfl

end Toggling

/-! ### Drawing -/

/-- Draws the dots of a row from a column on, until one falls over the edge and is not to come in
on the other side. -/
def drawRow? (resolution : Resolution) (filter : Filter) (wraps : Bool) (bits : UInt16)
    (x y : Nat) : Nat → Nat → Array Pixel → Option (Array Pixel × Bool)
  | 0, _, cells => some (cells, false)
  | left + 1, column, cells => do
      let mask ← shiftRightWord? 0x8000 column
      if bits &&& mask = 0 then
        drawRow? resolution filter wraps bits x y left (column + 1) cells
      else
        let across ← addSize? x column
        if resolution.width ≤ across ∧ wraps = false then some (cells, false)
        else
          let pixelX := if resolution.width ≤ across then across % resolution.width else across
          let (flipped, wasOn) ← flip? resolution filter cells pixelX y
          let (drawn, collided) ←
            drawRow? resolution filter wraps bits x y left (column + 1) flipped
          some (drawn, wasOn || collided)

/-- Draws rows from a row on, until one lies below the edge and is not to come in at the top. -/
def drawRows? (resolution : Resolution) (filter : Filter) (wraps : Bool) (width x y : Nat) :
    List UInt16 → Nat → Array Pixel → Option (Array Pixel × Bool)
  | [], _, cells => some (cells, false)
  | bits :: rest, row, cells => do
      let down ← addSize? y row
      if resolution.height ≤ down ∧ wraps = false then some (cells, false)
      else
        let pixelY := if resolution.height ≤ down then down % resolution.height else down
        let (drawn, collided) ←
          drawRow? resolution filter wraps bits x pixelY width 0 cells
        let (finished, more) ← drawRows? resolution filter wraps width x y rest (row + 1) drawn
        some (finished, collided || more)

def draw? (resolution : Resolution) (filter : Filter) (cells : Array Pixel) (sprite : Sprite)
    (wraps : Bool) : Option (Array Pixel × Bool) :=
  drawRows? resolution filter wraps sprite.width (sprite.x % resolution.width)
    (sprite.y % resolution.height) sprite.rows 0 cells

private theorem toNat_columnMask : ∀ column : Fin 16,
    ((0x8000 : UInt16) >>> UInt16.ofNat column.val).toNat = 2 ^ (15 - column.val) := by
  decide

theorem hasDot_iff (bits : UInt16) {column : Nat} (inside : column < 16) :
    Sprite.hasDot bits column = true ↔ bits &&& (0x8000 >>> UInt16.ofNat column) ≠ 0 := by
  have mask : ((0x8000 : UInt16) >>> UInt16.ofNat column).toNat = 2 ^ (15 - column) :=
    toNat_columnMask ⟨column, inside⟩
  have left : (bits &&& (0x8000 >>> UInt16.ofNat column)).toNat =
      (bits.toNat.testBit (15 - column)).toNat * 2 ^ (15 - column) := by
    rw [UInt16.toNat_and, mask, Nat.and_two_pow]
  have positive : 0 < 2 ^ (15 - column) := Nat.two_pow_pos _
  rw [Ne, ← UInt16.toNat_inj, left]
  cases dot : bits.toNat.testBit (15 - column) with
  | false => simp [Sprite.hasDot, dot]
  | true =>
      simp only [Sprite.hasDot, dot, inside, decide_true, Bool.and_true, true_iff]
      intro none
      have zero : 1 * 2 ^ (15 - column) = 0 := none
      omega

private theorem wrapped_eq (size value : Nat) :
    (if size ≤ value then value % size else value) = value % size := by
  by_cases beyond : size ≤ value
  · rw [if_pos beyond]
  · rw [if_neg beyond, Nat.mod_eq_of_lt (Nat.not_le.mp beyond)]

private theorem reached_of_not_breaks {size place : Nat} {wraps : Bool}
    (goesOn : ¬ (size ≤ place ∧ wraps = false)) : wraps = true ∨ place < size := by
  cases wraps with
  | true => exact Or.inl rfl
  | false =>
      refine Or.inr (Nat.lt_of_not_le ?_)
      intro beyond
      exact goesOn ⟨beyond, rfl⟩

section Drawing

variable (resolution : Resolution) (filter : Filter) (sprite : Sprite) (wraps : Bool)

theorem target?_eq_some {column row : Nat}
    (across : wraps = true ∨ sprite.x % resolution.width + column < resolution.width)
    (down : wraps = true ∨ sprite.y % resolution.height + row < resolution.height) :
    sprite.target? resolution wraps (column, row) =
      some ((sprite.x % resolution.width + column) % resolution.width,
        (sprite.y % resolution.height + row) % resolution.height) := by
  unfold Sprite.target?
  cases wraps with
  | true => rfl
  | false =>
      simp only [Bool.false_eq_true, false_or] at across down
      simp only [Bool.false_eq_true, if_false]
      rw [if_pos ⟨across, down⟩, Nat.mod_eq_of_lt across, Nat.mod_eq_of_lt down]

theorem target?_eq_none {column row : Nat} (clips : wraps = false)
    (outside : resolution.width ≤ sprite.x % resolution.width + column ∨
      resolution.height ≤ sprite.y % resolution.height + row) :
    sprite.target? resolution wraps (column, row) = none := by
  subst clips
  unfold Sprite.target?
  simp only [Bool.false_eq_true, if_false]
  rw [if_neg]
  rintro ⟨across, down⟩
  omega

def rowTargets (bits : UInt16) (row column left : Nat) : List (Nat × Nat) :=
  ((List.range' column left).filter (Sprite.hasDot bits)).filterMap fun column =>
    sprite.target? resolution wraps (column, row)

private theorem rowTargets_empty (bits : UInt16) {row column : Nat} (left : Nat)
    (breaks : resolution.width ≤ sprite.x % resolution.width + column ∧ wraps = false) :
    rowTargets resolution sprite wraps bits row column left = [] := by
  rw [rowTargets, List.filterMap_eq_nil_iff]
  intro later member
  have behind := (List.mem_range'_1.mp (List.mem_filter.mp member).1).1
  have outside : resolution.width ≤ sprite.x % resolution.width + later := by omega
  exact target?_eq_none resolution sprite wraps breaks.2 (Or.inl outside)

private theorem rowTargets_dot {bits : UInt16} {row column left : Nat}
    (dot : Sprite.hasDot bits column = true)
    (across : wraps = true ∨ sprite.x % resolution.width + column < resolution.width)
    (down : wraps = true ∨ sprite.y % resolution.height + row < resolution.height) :
    rowTargets resolution sprite wraps bits row column (left + 1) =
      ((sprite.x % resolution.width + column) % resolution.width,
        (sprite.y % resolution.height + row) % resolution.height) ::
        rowTargets resolution sprite wraps bits row (column + 1) left := by
  have target := target?_eq_some resolution sprite wraps across down
  rw [rowTargets, List.range'_succ, List.filter_cons_of_pos dot, List.filterMap_cons, target]
  rfl

private theorem rowTargets_gap {bits : UInt16} {column : Nat} (row left : Nat)
    (gap : ¬ Sprite.hasDot bits column = true) :
    rowTargets resolution sprite wraps bits row column (left + 1) =
      rowTargets resolution sprite wraps bits row (column + 1) left := by
  rw [rowTargets, List.range'_succ, List.filter_cons_of_neg gap]
  rfl

theorem drawRow?_eq (bits : UInt16) {row : Nat}
    (reached : wraps = true ∨ sprite.y % resolution.height + row < resolution.height)
    (left column : Nat) (fits : column + left ≤ 16) (grid : Grid) :
    drawRow? resolution filter wraps bits (sprite.x % resolution.width)
        ((sprite.y % resolution.height + row) % resolution.height) left column
        grid.cells.toArray =
      some ((Screen.toggleAll resolution filter
          (rowTargets resolution sprite wraps bits row column left) grid).1.cells.toArray,
        (Screen.toggleAll resolution filter
          (rowTargets resolution sprite wraps bits row column left) grid).2) := by
  have widthPositive := resolution.width_pos
  have heightPositive := resolution.height_pos
  induction left generalizing column grid with
  | zero => rfl
  | succ left ih =>
      have inside : column < 16 := by omega
      have later := ih (column + 1) (by omega)
      rw [drawRow?, shiftRightWord?_eq _ inside, some_bind]
      by_cases dot : Sprite.hasDot bits column = true
      · have bit := (hasDot_iff bits inside).mp dot
        have counted : sprite.x % resolution.width + column < sizeLimit := by
          have origin := Nat.mod_lt sprite.x widthPositive
          have widthSmall : resolution.width ≤ 128 := Nat.div_le_self 128 _
          unfold sizeLimit
          omega
        rw [if_neg bit, addSize?_eq counted, some_bind]
        by_cases breaks : resolution.width ≤ sprite.x % resolution.width + column ∧ wraps = false
        · -- every later dot of the row falls over the edge as well
          rw [if_pos breaks, rowTargets_empty resolution sprite wraps bits (left + 1) breaks]
          rfl
        · have across := reached_of_not_breaks breaks
          rw [if_neg breaks, wrapped_eq]
          simp only
          rw [flip?_eq resolution (Nat.mod_lt _ widthPositive) (Nat.mod_lt _ heightPositive),
            some_bind]
          simp only
          rw [later, some_bind, rowTargets_dot resolution sprite wraps dot across reached]
          rfl
      · have noBit : bits &&& (0x8000 >>> UInt16.ofNat column) = 0 :=
          Decidable.of_not_not (mt (hasDot_iff bits inside).mpr dot)
        rw [if_pos noBit, later, rowTargets_gap resolution sprite wraps row left dot]

theorem drawRows?_eq {width : Nat} (narrow : width ≤ 16) (rows : List UInt16) (row : Nat)
    (short : row + rows.length ≤ 256) (grid : Grid) :
    drawRows? resolution filter wraps width (sprite.x % resolution.width)
        (sprite.y % resolution.height) rows row grid.cells.toArray =
      some ((Screen.toggleAll resolution filter ((rows.zipIdx row).flatMap fun line =>
          rowTargets resolution sprite wraps line.1 line.2 0 width) grid).1.cells.toArray,
        (Screen.toggleAll resolution filter ((rows.zipIdx row).flatMap fun line =>
          rowTargets resolution sprite wraps line.1 line.2 0 width) grid).2) := by
  have heightPositive := resolution.height_pos
  have heightSmall : resolution.height ≤ 64 := Nat.div_le_self 64 _
  have origin := Nat.mod_lt sprite.y heightPositive
  induction rows generalizing row grid with
  | nil => rfl
  | cons bits rest ih =>
      rw [List.length_cons] at short
      have later := ih (row + 1) (by omega)
      have fitsSize : sprite.y % resolution.height + row < sizeLimit := by
        unfold sizeLimit
        omega
      rw [drawRows?, addSize?_eq fitsSize, some_bind]
      by_cases breaks : resolution.height ≤ sprite.y % resolution.height + row ∧ wraps = false
      · -- every later row lies below the edge as well
        have dropped : (((bits :: rest).zipIdx row).flatMap fun line =>
            rowTargets resolution sprite wraps line.1 line.2 0 width) = [] := by
          rw [List.flatMap_eq_nil_iff]
          intro line member
          have below := (List.mem_zipIdx member).1
          have outside : resolution.height ≤ sprite.y % resolution.height + line.2 := by omega
          rw [rowTargets, List.filterMap_eq_nil_iff]
          intro column _
          exact target?_eq_none resolution sprite wraps breaks.2 (Or.inr outside)
        rw [if_pos breaks, dropped]
        rfl
      · have reached := reached_of_not_breaks breaks
        rw [if_neg breaks, wrapped_eq]
        simp only
        rw [drawRow?_eq resolution filter sprite wraps bits reached width 0 (by omega), some_bind]
        simp only
        rw [later, some_bind, List.zipIdx_cons, List.flatMap_cons,
          Screen.toggleAll_append]

theorem targets_eq (narrow : sprite.width ≤ 16) :
    sprite.targets resolution wraps =
      sprite.rows.zipIdx.flatMap fun line =>
        rowTargets resolution sprite wraps line.1 line.2 0 sprite.width := by
  rw [Sprite.targets, Sprite.dots, List.filterMap_flatMap, Nat.min_eq_left narrow]
  refine congrArg (fun row => sprite.rows.zipIdx.flatMap row) (funext fun line => ?_)
  rw [List.filterMap_map, List.range_eq_range']
  rfl

theorem draw?_eq (narrow : sprite.width ≤ 16) (short : sprite.rows.length ≤ 256) (grid : Grid) :
    draw? resolution filter grid.cells.toArray sprite wraps =
      some ((Screen.toggleAll resolution filter (sprite.targets resolution wraps)
          grid).1.cells.toArray,
        (Screen.toggleAll resolution filter (sprite.targets resolution wraps) grid).2) := by
  rw [draw?, drawRows?_eq resolution filter sprite wraps narrow sprite.rows 0 (by omega),
    targets_eq resolution sprite wraps narrow]

end Drawing

/-! ### Scrolling -/

/-- The cells with those from one place up to another copied to a third, if all lie inside. -/
def copyWithin? (cells : Array Pixel) (start stop target : Nat) : Option (Array Pixel) :=
  if start ≤ stop ∧ stop ≤ cells.size ∧ target + (stop - start) ≤ cells.size then
    some (Array.ofFn fun place : Fin cells.size =>
      if target ≤ place.val ∧ place.val < target + (stop - start) then
        cells.getD (start + (place.val - target)) Pixel.dark
      else cells[place.val])
  else none

/-- The cells with those from one place up to another made dark, if they lie inside. -/
def darken? (cells : Array Pixel) (start stop : Nat) : Option (Array Pixel) :=
  if start ≤ stop ∧ stop ≤ cells.size then
    some (Array.ofFn fun place : Fin cells.size =>
      if start ≤ place.val ∧ place.val < stop then Pixel.dark else cells[place.val])
  else none

def changeRows? (change : Array Pixel → Option (Array Pixel)) (cells : Array Pixel) :
    Nat → Option (Array Pixel)
  | 0 => some #[]
  | count + 1 => do
      let before ← changeRows? change cells count
      let row ← change (cells.extract (count * 128) (count * 128 + 128))
      some (before ++ row)

def scrollDown? (resolution : Resolution) (cells : Array Pixel) (rows : Nat) :
    Option (Array Pixel) := do
  let moved ← mulSize? rows resolution.cellsDown
  let dark := min moved 64
  let kept ← subSize? 64 dark
  let stop ← mulSize? kept 128
  let target ← mulSize? dark 128
  let copied ← copyWithin? cells 0 stop target
  darken? copied 0 target

def scrollRight? (resolution : Resolution) (cells : Array Pixel) (columns : Nat) :
    Option (Array Pixel) := do
  let moved ← mulSize? columns resolution.cellsAcross
  let dark := min moved 128
  let change (row : Array Pixel) : Option (Array Pixel) := do
    let kept ← subSize? 128 dark
    let copied ← copyWithin? row 0 kept dark
    darken? copied 0 dark
  changeRows? change cells (cells.size / 128)

def scrollLeft? (resolution : Resolution) (cells : Array Pixel) (columns : Nat) :
    Option (Array Pixel) := do
  let moved ← mulSize? columns resolution.cellsAcross
  let dark := min moved 128
  let change (row : Array Pixel) : Option (Array Pixel) := do
    let copied ← copyWithin? row dark row.size 0
    let kept ← subSize? 128 dark
    darken? copied kept copied.size
  changeRows? change cells (cells.size / 128)

theorem toArray_ofCells (content : Nat → Nat → Pixel) :
    (Grid.ofCells content).cells.toArray =
      Array.ofFn fun index : Fin 8192 => content (index.val % 128) (index.val / 128) :=
  Vector.toArray_ofFn

theorem getD_cells (grid : Grid) {place : Nat} (inside : place < 8192) :
    grid.cells.toArray.getD place Pixel.dark = grid.cell (place % 128) (place / 128) := by
  have insideGrid : place % 128 < 128 ∧ place / 128 < 64 := by omega
  have found := getElem?_cells grid insideGrid
  rw [Nat.div_add_mod' place 128] at found
  rw [Array.getD_eq_getD_getElem?, found, Option.getD_some]

theorem scrollDown?_eq (resolution : Resolution) (grid : Grid) (rows : Nat)
    (counted : rows * resolution.cellsDown < sizeLimit) :
    scrollDown? resolution grid.cells.toArray rows =
      some (grid.shiftDown (rows * resolution.cellsDown)).cells.toArray := by
  have size : grid.cells.toArray.size = 8192 := grid.cells.size_toArray
  have atMost := Nat.min_le_right (rows * resolution.cellsDown) 64
  rw [scrollDown?, mulSize?_eq counted, some_bind]
  simp only
  rw [subSize?_eq atMost, some_bind, mulSize?_eq (by unfold sizeLimit; omega), some_bind,
    mulSize?_eq (by unfold sizeLimit; omega), some_bind, copyWithin?, if_pos (by omega),
    some_bind, darken?, if_pos (by rw [Array.size_ofFn]; omega), Grid.shiftDown, toArray_ofCells]
  generalize rows * resolution.cellsDown = moved at atMost ⊢
  refine congrArg some (Array.ext (by simp) ?_)
  intro place inside insideWhole
  rw [Array.size_ofFn] at insideWhole
  simp only [Array.getElem_ofFn]
  by_cases above : place / 128 < moved
  · rw [if_pos above, if_pos (by omega)]
  · rw [if_neg above, if_neg (by omega), if_pos (by omega), getD_cells grid (by omega)]
    congr 1 <;> omega

theorem changeRows?_eq {change : Array Pixel → Option (Array Pixel)} {cells : Array Pixel}
    (content : Nat → Nat → Pixel) (count : Nat)
    (changed : ∀ row < count, change (cells.extract (row * 128) (row * 128 + 128)) =
      some (Array.ofFn fun column : Fin 128 => content column.val row)) :
    changeRows? change cells count =
      some (Array.ofFn fun place : Fin (count * 128) =>
        content (place.val % 128) (place.val / 128)) := by
  induction count with
  | zero => simp [changeRows?]
  | succ count ih =>
      rw [changeRows?, ih fun row below => changed row (Nat.lt_succ_of_lt below), some_bind,
        changed count (Nat.lt_succ_self count), some_bind]
      refine congrArg some (Array.ext (by simp [Nat.succ_mul]) ?_)
      intro place inside insideWhole
      rw [Array.size_ofFn] at insideWhole
      by_cases earlier : place < count * 128
      · rw [Array.getElem_append_left (by rw [Array.size_ofFn]; exact earlier)]
        simp only [Array.getElem_ofFn]
      · rw [Array.getElem_append_right (by rw [Array.size_ofFn]; omega)]
        simp only [Array.getElem_ofFn, Array.size_ofFn]
        congr 1 <;> omega

theorem extract_cells (grid : Grid) {row : Nat} (inside : row < 64) :
    grid.cells.toArray.extract (row * 128) (row * 128 + 128) =
      Array.ofFn fun column : Fin 128 => grid.cell column.val row := by
  have size : grid.cells.toArray.size = 8192 := grid.cells.size_toArray
  refine Array.ext (by rw [Array.size_extract, Array.size_ofFn]; omega) ?_
  intro column insideRow insideWhole
  rw [Array.size_ofFn] at insideWhole
  have found := getElem?_cells grid ⟨insideWhole, inside⟩
  rw [Array.getElem_extract, Array.getElem_ofFn]
  exact (Array.getElem?_eq_some_iff.mp found).2

theorem changeRows?_cells {change : Array Pixel → Option (Array Pixel)} {grid : Grid}
    (content : Nat → Nat → Pixel)
    (changed : ∀ row < 64,
      change (Array.ofFn fun column : Fin 128 => grid.cell column.val row) =
        some (Array.ofFn fun column : Fin 128 => content column.val row)) :
    changeRows? change grid.cells.toArray (grid.cells.toArray.size / 128) =
      some (Grid.ofCells content).cells.toArray := by
  have rows : grid.cells.toArray.size / 128 = 64 := by
    rw [grid.cells.size_toArray]
  rw [rows, toArray_ofCells]
  apply changeRows?_eq content 64
  intro row inside
  rw [extract_cells grid inside]
  exact changed row inside

private theorem getD_row (grid : Grid) (row : Nat) {column : Nat} (inside : column < 128) :
    (Array.ofFn fun column : Fin 128 => grid.cell column.val row).getD column Pixel.dark =
      grid.cell column row := by
  rw [Array.getD_eq_getD_getElem?, Array.getElem?_ofFn, dif_pos inside, Option.getD_some]

theorem scrollRight?_eq (resolution : Resolution) (grid : Grid) (columns : Nat)
    (counted : columns * resolution.cellsAcross < sizeLimit) :
    scrollRight? resolution grid.cells.toArray columns =
      some (grid.shiftRight (columns * resolution.cellsAcross)).cells.toArray := by
  have atMost := Nat.min_le_right (columns * resolution.cellsAcross) 128
  rw [scrollRight?, mulSize?_eq counted, some_bind, Grid.shiftRight]
  generalize columns * resolution.cellsAcross = moved at atMost ⊢
  apply changeRows?_cells
  intro row _
  rw [subSize?_eq atMost, some_bind, copyWithin?,
    if_pos (by rw [Array.size_ofFn]; omega), some_bind, darken?,
    if_pos (by rw [Array.size_ofFn, Array.size_ofFn]; omega)]
  refine congrArg some (Array.ext (by simp) ?_)
  intro column _ insideWhole
  rw [Array.size_ofFn] at insideWhole
  simp only [Array.getElem_ofFn]
  by_cases before : column < moved
  · rw [if_pos before, if_pos (by omega)]
  · rw [if_neg before, if_neg (by omega), if_pos (by omega), getD_row grid row (by omega)]
    congr 1
    omega

theorem scrollLeft?_eq (resolution : Resolution) (grid : Grid) (columns : Nat)
    (counted : columns * resolution.cellsAcross < sizeLimit) :
    scrollLeft? resolution grid.cells.toArray columns =
      some (grid.shiftLeft (columns * resolution.cellsAcross)).cells.toArray := by
  have atMost := Nat.min_le_right (columns * resolution.cellsAcross) 128
  rw [scrollLeft?, mulSize?_eq counted, some_bind, Grid.shiftLeft]
  generalize columns * resolution.cellsAcross = moved at atMost ⊢
  apply changeRows?_cells
  intro row _
  rw [copyWithin?, if_pos (by rw [Array.size_ofFn]; omega), some_bind, subSize?_eq atMost,
    some_bind, darken?, if_pos (by rw [Array.size_ofFn, Array.size_ofFn]; omega)]
  refine congrArg some (Array.ext (by simp) ?_)
  intro column _ insideWhole
  rw [Array.size_ofFn] at insideWhole
  simp only [Array.getElem_ofFn, Array.size_ofFn]
  by_cases inside : column + moved < 128
  · rw [if_neg (by omega), if_pos (by omega), getD_row grid row (by omega)]
    congr 1
    omega
  · rw [if_pos (by omega), Grid.cell_outside grid (by omega)]

/-! ### Frames -/

def pixels? (resolution : Resolution) (cells : Array Pixel) : Option (List Pixel) :=
  ((List.range resolution.height).flatMap fun y =>
      (List.range resolution.width).map fun x => (x, y)).mapM fun place => do
    let index ← cornerPlace? resolution place.1 place.2
    cells[index]?

theorem mapM_eq_some {α β : Type} {elements : List α} {step : α → Option β} (result : α → β)
    (succeeds : ∀ element ∈ elements, step element = some (result element)) :
    elements.mapM step = some (elements.map result) := by
  induction elements with
  | nil => rfl
  | cons head rest ih =>
      rw [List.mapM_cons, succeeds head List.mem_cons_self, some_bind,
        ih fun element member => succeeds element (List.mem_cons_of_mem _ member), some_bind]
      rfl

private theorem ofFn_val {α : Type} (size : Nat) (element : Nat → α) :
    (List.ofFn fun index : Fin size => element index.val) = (List.range size).map element :=
  List.ext_getElem (by simp) fun index _ _ => by simp

theorem frame_pixels (screen : Screen) :
    screen.frame.pixels.toList =
      ((List.range screen.resolution.height).flatMap fun y =>
        (List.range screen.resolution.width).map fun x => screen.pixel x y) := by
  have places : ∀ (y : Fin screen.resolution.height) (x : Fin screen.resolution.width),
      (screen.resolution.width * y.val + x.val) % screen.resolution.width = x.val ∧
        (screen.resolution.width * y.val + x.val) / screen.resolution.width = y.val := by
    intro y x
    rw [Nat.mul_comm]
    exact ⟨Frame.column_of_place x.isLt y.val, Frame.row_of_place x.isLt y.val⟩
  rw [Screen.frame, Array.toList_ofFn, List.ofFn_mul']
  have row : (fun y : Fin screen.resolution.height =>
      List.ofFn fun x : Fin screen.resolution.width => screen.pixel x.val y.val) =
      fun y => (List.range screen.resolution.width).map fun x => screen.pixel x y.val :=
    funext fun y => ofFn_val _ fun x => screen.pixel x y.val
  simp only [places, row]
  rw [ofFn_val _ fun y => (List.range screen.resolution.width).map fun x => screen.pixel x y]
  rfl

theorem pixels?_eq (screen : Screen) :
    pixels? screen.resolution screen.grid.cells.toArray = some screen.frame.pixels.toList := by
  rw [pixels?, mapM_eq_some fun place => screen.pixel place.1 place.2, frame_pixels,
    List.map_flatMap]
  · simp only [List.map_map]
    rfl
  · rintro ⟨x, y⟩ member
    obtain ⟨row, inRows, inRow⟩ := List.mem_flatMap.mp member
    obtain ⟨column, inColumns, same⟩ := List.mem_map.mp inRow
    cases same
    have inside : x < screen.resolution.width ∧ y < screen.resolution.height :=
      ⟨List.mem_range.mp inColumns, List.mem_range.mp inRows⟩
    simp only
    rw [cornerPlace?_eq screen.resolution inside.1 inside.2, some_bind,
      getElem?_cells screen.grid (screen.resolution.corner_inside inside.1 inside.2)]
    rfl

end Words
end Chip8
