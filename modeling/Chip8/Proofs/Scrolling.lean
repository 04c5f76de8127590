import Chip8.Proofs.Picture
import Chip8.Proofs.WordScreen

set_option autoImplicit false

/-!
Scrolls one after the other. A scroll copies cells within their array and darkens the rest
(`Screen.map_cells_scroll?`). So it gives each cell what stood at one other place, or darkness
(`Direction.source?`, `Grid.cell_shift`), and what scrolls do together is a matter of places alone:
`source?_bind_source?` for two scrolls in one direction, `source?_bind_comm` for one down and one to
a side, and `source?_bind_opposite` for one to a side and one back.

Main statement: `scrolls_compose`.
-/

namespace Chip8

inductive Side where
  | right
  | left
  deriving DecidableEq

inductive Direction where
  | down
  | sideways (side : Side)
  deriving DecidableEq

def Side.opposite : Side → Side
  | .right => .left
  | .left => .right

/-- Whether a column comes back when the cells are moved to a side and back by a distance. -/
def Side.Keeps (distance column : Nat) : Side → Prop
  | .right => column + distance < 128
  | .left => distance ≤ column

/-- The logical columns next to an edge, as many as were moved over it. -/
def Side.Loses (resolution : Resolution) (count x : Nat) : Side → Prop
  | .right => resolution.width - min count resolution.width ≤ x
  | .left => x < min count resolution.width

instance (distance column : Nat) (side : Side) : Decidable (side.Keeps distance column) := by
  cases side <;> unfold Side.Keeps <;> infer_instance

instance (resolution : Resolution) (count x : Nat) (side : Side) :
    Decidable (side.Loses resolution count x) := by
  cases side <;> unfold Side.Loses <;> infer_instance

/-! ### Places -/

namespace Direction

/-- How many cells a scroll by one logical row or column moves. -/
def cells (resolution : Resolution) : Direction → Nat
  | .down => resolution.cellsDown
  | .sideways _ => resolution.cellsAcross

/-- The place from which a cell is filled when the cells are moved by a distance; none if nothing
comes in from outside but darkness. -/
def source? (distance : Nat) : Direction → Nat × Nat → Option (Nat × Nat)
  | .down, (column, row) => if distance ≤ row then some (column, row - distance) else none
  | .sideways .right, (column, row) =>
      if distance ≤ column then some (column - distance, row) else none
  | .sideways .left, (column, row) =>
      if column + distance < 128 then some (column + distance, row) else none

theorem source?_inside {distance : Nat} {direction : Direction} {place source : Nat × Nat}
    (inside : place.1 < 128 ∧ place.2 < 64)
    (found : direction.source? distance place = some source) :
    source.1 < 128 ∧ source.2 < 64 := by
  rcases place with ⟨column, row⟩
  rcases direction with _ | _ | _ <;>
    simp only [source?, Option.ite_none_right_eq_some, Option.some.injEq] at found <;>
    obtain ⟨reached, rfl⟩ := found <;>
    simp only at inside ⊢ <;> omega

/-- Two distances in one direction are as good as their sum. -/
theorem source?_bind_source? (direction : Direction) (distance more : Nat) (place : Nat × Nat) :
    (direction.source? more place).bind (direction.source? distance) =
      direction.source? (distance + more) place := by
  rcases place with ⟨column, row⟩
  cases direction with
  | down =>
      by_cases reached : more ≤ row
      · simp only [source?, reached, if_true, Option.bind_some]
        grind
      · have beyond : ¬distance + more ≤ row := by omega
        simp [source?, reached, beyond]
  | sideways side =>
      cases side with
      | right =>
          by_cases reached : more ≤ column
          · simp only [source?, reached, if_true, Option.bind_some]
            grind
          · have beyond : ¬distance + more ≤ column := by omega
            simp [source?, reached, beyond]
      | left =>
          by_cases within : column + more < 128
          · simp only [source?, within, if_true, Option.bind_some]
            grind
          · have beyond : ¬column + (distance + more) < 128 := by omega
            simp [source?, within, beyond]

theorem source?_bind_comm (side : Side) (rows columns : Nat) (place : Nat × Nat) :
    ((sideways side).source? columns place).bind (down.source? rows) =
      (down.source? rows place).bind ((sideways side).source? columns) := by
  rcases place with ⟨column, row⟩
  cases side with
  | right =>
      by_cases lower : rows ≤ row <;> by_cases reached : columns ≤ column <;>
        simp [source?, lower, reached]
  | left =>
      by_cases lower : rows ≤ row <;> by_cases within : column + columns < 128 <;>
        simp [source?, lower, within]

/-- To a side and back, a column comes from where it is or from outside. -/
theorem source?_bind_opposite (side : Side) (distance : Nat) {column : Nat} (row : Nat)
    (inside : column < 128) :
    ((sideways side.opposite).source? distance (column, row)).bind
        ((sideways side).source? distance) =
      if side.Keeps distance column then some (column, row) else none := by
  cases side with
  | right =>
      by_cases within : column + distance < 128 <;>
        simp [Side.opposite, Side.Keeps, source?, within]
  | left =>
      by_cases reached : distance ≤ column
      · have returns : column - distance + distance = column := Nat.sub_add_cancel reached
        simp [Side.opposite, Side.Keeps, source?, reached, returns, inside]
      · simp [Side.opposite, Side.Keeps, source?, reached]

end Direction

/-! ### Grids -/

namespace Grid

def shift (grid : Grid) (distance : Nat) : Direction → Grid
  | .down => grid.shiftDown distance
  | .sideways .right => grid.shiftRight distance
  | .sideways .left => grid.shiftLeft distance

/-- The cell at a place that may be outside, where it is dark. -/
def cellAt (grid : Grid) : Option (Nat × Nat) → Pixel
  | some (column, row) => grid.cell column row
  | none => Pixel.dark

variable (grid : Grid)

section Cells

variable {column row : Nat} (inside : column < 128 ∧ row < 64)

include inside

theorem cell_shift (distance : Nat) (direction : Direction) :
    (grid.shift distance direction).cell column row =
      grid.cellAt (direction.source? distance (column, row)) := by
  rcases direction with _ | _ | _
  · rw [shift, shiftDown, cell_ofCells _ inside, Direction.source?]
    by_cases reached : distance ≤ row
    · rw [if_neg (Nat.not_lt.mpr reached), if_pos reached, cellAt]
    · rw [if_pos (Nat.not_le.mp reached), if_neg reached, cellAt]
  · rw [shift, shiftRight, cell_ofCells _ inside, Direction.source?]
    by_cases reached : distance ≤ column
    · rw [if_neg (Nat.not_lt.mpr reached), if_pos reached, cellAt]
    · rw [if_pos (Nat.not_le.mp reached), if_neg reached, cellAt]
  · rw [shift, shiftLeft, cell_ofCells _ inside, Direction.source?]
    by_cases within : column + distance < 128
    · rw [if_pos within, cellAt]
    · rw [if_neg within, cellAt, cell_outside grid fun both => within both.1]

theorem cell_shift_shift (first second : Nat) (direction next : Direction) :
    ((grid.shift first direction).shift second next).cell column row =
      grid.cellAt ((next.source? second (column, row)).bind (direction.source? first)) := by
  rw [cell_shift _ inside]
  cases found : next.source? second (column, row) with
  | none => rfl
  | some source => exact grid.cell_shift (Direction.source?_inside inside found) first direction

end Cells

theorem shift_shift (distance more : Nat) (direction : Direction) :
    (grid.shift distance direction).shift more direction =
      grid.shift (distance + more) direction := by
  refine ext_cell fun column row fromLeft fromTop => ?_
  rw [cell_shift_shift _ ⟨fromLeft, fromTop⟩, cell_shift _ ⟨fromLeft, fromTop⟩,
    Direction.source?_bind_source?]

theorem shift_comm (rows columns : Nat) (side : Side) :
    (grid.shift rows .down).shift columns (.sideways side) =
      (grid.shift columns (.sideways side)).shift rows .down := by
  refine ext_cell fun column row fromLeft fromTop => ?_
  rw [cell_shift_shift _ ⟨fromLeft, fromTop⟩, cell_shift_shift _ ⟨fromLeft, fromTop⟩,
    Direction.source?_bind_comm]

theorem cell_shift_opposite (distance : Nat) (side : Side) {column row : Nat}
    (inside : column < 128 ∧ row < 64) :
    ((grid.shift distance (.sideways side)).shift distance (.sideways side.opposite)).cell
        column row =
      if side.Keeps distance column then grid.cell column row else Pixel.dark := by
  rw [cell_shift_shift _ inside, Direction.source?_bind_opposite side distance row inside.1]
  split <;> rfl

end Grid

/-! ### Logical pixels -/

theorem Side.keeps_iff (side : Side) (resolution : Resolution) (count : Nat) {x across : Nat}
    (column : x < resolution.width) (within : across < resolution.cellsAcross) :
    side.Keeps (count * resolution.cellsAcross) (x * resolution.cellsAcross + across) ↔
      ¬side.Loses resolution count x := by
  cases side <;> cases resolution <;>
    simp only [Side.Keeps, Side.Loses, Resolution.width, Resolution.cellsAcross]
      at column within ⊢ <;>
    omega

/-- A scroll of an array of cells. -/
def Words.scroll? (resolution : Resolution) (cells : Array Pixel) (count : Nat) :
    Direction → Option (Array Pixel)
  | .down => scrollDown? resolution cells count
  | .sideways .right => scrollRight? resolution cells count
  | .sideways .left => scrollLeft? resolution cells count

namespace Screen

/-- One of the cells of a logical pixel, counted from the upper left one. -/
def blockCell (screen : Screen) (x y across down : Nat) : Pixel :=
  screen.grid.cell (x * screen.resolution.cellsAcross + across)
    (y * screen.resolution.cellsDown + down)

def scroll? (screen : Screen) (count : Nat) : Direction → Option Screen
  | .down => screen.scrollDown? count
  | .sideways .right => screen.scrollRight? count
  | .sideways .left => screen.scrollLeft? count

/-- What a scroll to a side and another one back make of a screen: the columns that were moved over
the edge are dark, and all cells of the other logical pixels are as they were. -/
structure ScrolledBack (side : Side) (count : Nat) (before after : Screen) : Prop where
  resolution : after.resolution = before.resolution
  filter : after.filter = before.filter
  cells : ∀ x y across down, x < before.resolution.width → y < before.resolution.height →
    across < before.resolution.cellsAcross → down < before.resolution.cellsDown →
    after.blockCell x y across down =
      if side.Loses before.resolution count x then Pixel.dark
      else before.blockCell x y across down

variable (screen : Screen)

theorem scroll?_eq (count : Nat) (direction : Direction) :
    screen.scroll? count direction =
      if count * direction.cells screen.resolution ≤ longestScroll then
        some ⟨screen.grid.shift (count * direction.cells screen.resolution) direction,
          screen.resolution, screen.filter⟩
      else none := by
  rcases direction with _ | _ | _ <;> rfl

theorem scroll?_of_le {count : Nat} {direction : Direction}
    (counted : count * direction.cells screen.resolution ≤ longestScroll) :
    screen.scroll? count direction =
      some ⟨screen.grid.shift (count * direction.cells screen.resolution) direction,
        screen.resolution, screen.filter⟩ :=
  (screen.scroll?_eq count direction).trans (if_pos counted)

theorem scroll?_scroll? {first second : Nat} {direction next : Direction}
    (counted : first * direction.cells screen.resolution ≤ longestScroll)
    (countedNext : second * next.cells screen.resolution ≤ longestScroll) :
    (screen.scroll? first direction).bind (·.scroll? second next) =
      some ⟨(screen.grid.shift (first * direction.cells screen.resolution) direction).shift
          (second * next.cells screen.resolution) next,
        screen.resolution, screen.filter⟩ := by
  rw [screen.scroll?_of_le counted, Option.bind_some]
  exact scroll?_of_le _ countedNext

theorem scrolledBack_shift (count : Nat) (side : Side) :
    ScrolledBack side count screen
      ⟨(screen.grid.shift (count * screen.resolution.cellsAcross) (.sideways side)).shift
          (count * screen.resolution.cellsAcross) (.sideways side.opposite),
        screen.resolution, screen.filter⟩ := by
  refine ⟨rfl, rfl, fun x y across down column row acrossWithin downWithin => ?_⟩
  have columnFits := screen.resolution.column_fits column
  have rowFits := screen.resolution.row_fits row
  have inside : x * screen.resolution.cellsAcross + across < 128 ∧
      y * screen.resolution.cellsDown + down < 64 := by omega
  refine (Grid.cell_shift_opposite _ _ side inside).trans ?_
  simp only [side.keeps_iff screen.resolution count column acrossWithin, ite_not]
  rfl

/-- The cells are scrolled by copies within them and by darkness where nothing is copied. -/
theorem map_cells_scroll? (count : Nat) (direction : Direction) :
    (screen.scroll? count direction).map (·.grid.cells.toArray) =
      Words.scroll? screen.resolution screen.grid.cells.toArray count direction := by
  rw [scroll?_eq]
  by_cases counted : count * direction.cells screen.resolution ≤ longestScroll
  · have below : count * direction.cells screen.resolution < sizeLimit :=
      Nat.lt_succ_of_le counted
    rw [if_pos counted, Option.map_some]
    rcases direction with _ | _ | _
    · exact (Words.scrollDown?_eq _ _ _ below).symm
    · exact (Words.scrollRight?_eq _ _ _ below).symm
    · exact (Words.scrollLeft?_eq _ _ _ below).symm
  · have uncounted : mulSize? count (direction.cells screen.resolution) = none :=
      if_neg fun below => counted (Nat.le_of_lt_succ below)
    rw [if_neg counted, Option.map_none]
    rcases direction with _ | _ | _ <;> rw [Direction.cells] at uncounted
    · rw [Words.scroll?, Words.scrollDown?, uncounted]
      rfl
    · rw [Words.scroll?, Words.scrollRight?, uncounted]
      rfl
    · rw [Words.scroll?, Words.scrollLeft?, uncounted]
      rfl

/-- Scrolls compose. Each is a copy within the array of cells. Two in one direction leave the screen
that one scroll by their sum leaves, down and to a side they may change places, and one to a side
and another one back lose the columns that went over the edge and nothing else. They come to an end
whenever the cells can be counted. -/
theorem scrolls_compose (count more : Nat) :
    (∀ direction : Direction,
      (screen.scroll? count direction).map (·.grid.cells.toArray) =
        Words.scroll? screen.resolution screen.grid.cells.toArray count direction) ∧
    (∀ direction : Direction,
      (count + more) * direction.cells screen.resolution ≤ longestScroll →
      ∃ scrolled, screen.scroll? (count + more) direction = some scrolled ∧
        (screen.scroll? count direction).bind (·.scroll? more direction) = some scrolled) ∧
    (∀ side : Side,
      count * screen.resolution.cellsDown ≤ longestScroll →
      more * screen.resolution.cellsAcross ≤ longestScroll →
      ∃ scrolled,
        (screen.scroll? count .down).bind (·.scroll? more (.sideways side)) = some scrolled ∧
        (screen.scroll? more (.sideways side)).bind (·.scroll? count .down) = some scrolled) ∧
    ∀ side : Side,
      count * screen.resolution.cellsAcross ≤ longestScroll →
      ∃ back,
        (screen.scroll? count (.sideways side)).bind (·.scroll? count (.sideways side.opposite)) =
          some back ∧
        ScrolledBack side count screen back := by
  refine ⟨screen.map_cells_scroll? count, ?_, ?_, ?_⟩
  · intro direction counted
    have split := Nat.add_mul count more (direction.cells screen.resolution)
    refine ⟨_, screen.scroll?_of_le counted, ?_⟩
    rw [screen.scroll?_scroll? (by omega) (by omega), Grid.shift_shift, split]
  · intro side countedDown countedAcross
    refine ⟨_, screen.scroll?_scroll? countedDown countedAcross, ?_⟩
    rw [screen.scroll?_scroll? countedAcross countedDown]
    exact congrArg (fun grid => some (Screen.mk grid screen.resolution screen.filter))
      (Grid.shift_comm _ _ _ side).symm
  · intro side counted
    exact ⟨_, screen.scroll?_scroll? counted counted, screen.scrolledBack_shift count side⟩

/-- The two scrolls to the right move the cells past the whole width of the screen. -/
theorem scrolls_compose_uneven :
    (3 + 62) * Resolution.low.cellsAcross ≤ longestScroll ∧
      3 * Resolution.low.cellsDown ≤ longestScroll ∧
      62 * Resolution.low.cellsAcross ≤ longestScroll ∧
      3 * Resolution.low.cellsAcross ≤ longestScroll ∧
      (∃ scrolled, unevenScreen.scroll? 65 (.sideways .right) = some scrolled ∧
        (unevenScreen.scroll? 3 (.sideways .right)).bind (·.scroll? 62 (.sideways .right)) =
          some scrolled) ∧
      (∃ scrolled,
        (unevenScreen.scroll? 3 .down).bind (·.scroll? 62 (.sideways .left)) = some scrolled ∧
        (unevenScreen.scroll? 62 (.sideways .left)).bind (·.scroll? 3 .down) = some scrolled) ∧
      ∃ back,
        (unevenScreen.scroll? 3 (.sideways .right)).bind (·.scroll? 3 (.sideways .left)) =
          some back ∧
        ScrolledBack .right 3 unevenScreen back := by
  obtain ⟨_, sums, changes, returns⟩ := scrolls_compose unevenScreen 3 62
  exact ⟨by decide, by decide, by decide, by decide, sums (.sideways .right) (by decide),
    changes .left (by decide) (by decide), returns .right (by decide)⟩

end Screen
end Chip8
