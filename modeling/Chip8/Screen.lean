import Chip8.Screen.Frame
import Chip8.Screen.Grid
import Chip8.Screen.Sprite

set_option autoImplicit false

/-!
The screen that programs draw on: the grid of cells, the resolution through which it is seen,
and the filter for points that go off. Drawing toggles logical pixels and tells whether it
switched one off; scrolling moves logical rows and columns; a picture shows each logical pixel
by the upper left cell of its block.
-/

namespace Chip8

structure Screen where
  grid : Grid
  resolution : Resolution
  filter : Filter
  deriving DecidableEq

namespace Screen

def blank (filter : Filter) : Screen :=
  ⟨Grid.dark, .low, filter⟩

/-- The screen seen at another resolution; no cell changes. -/
def setResolution (screen : Screen) (resolution : Resolution) : Screen :=
  { screen with resolution := resolution }

def setFilter (screen : Screen) (filter : Filter) : Screen :=
  { screen with filter := filter }

/-- The logical pixel at a place, shown by the upper left cell of its block. -/
def pixel (screen : Screen) (x y : Nat) : Pixel :=
  screen.grid.cell (x * screen.resolution.cellsAcross) (y * screen.resolution.cellsDown)

/-- Whether the cell that stands for a logical pixel is on. Cells are counted row by row, so an
x past the edge names a cell of a later row; past the last cell there is none. -/
def isOn? (screen : Screen) (x y : Nat) : Option Bool :=
  screen.grid.cells[y * screen.resolution.cellsDown * 128 + x * screen.resolution.cellsAcross]?.map
    Pixel.on

def clear (screen : Screen) : Screen :=
  { screen with grid := screen.grid.map (Pixel.turnOff screen.filter) }

/-- Toggles a logical pixel of a grid: all cells of the block go the way that the upper left
one goes. Tells whether the pixel was on. -/
def toggle (resolution : Resolution) (filter : Filter) (grid : Grid) (x y : Nat) : Grid × Bool :=
  let column := x * resolution.cellsAcross
  let row := y * resolution.cellsDown
  let wasOn := (grid.cell column row).on
  let change := if wasOn then Pixel.turnOff filter else Pixel.turnOn
  (grid.updateBlock column row resolution.cellsAcross change resolution.cellsDown, wasOn)

/-- Toggles pixels one after the other and tells whether one of them was on. -/
def toggleAll (resolution : Resolution) (filter : Filter) :
    List (Nat × Nat) → Grid → Grid × Bool
  | [], grid => (grid, false)
  | (x, y) :: rest, grid =>
      let (toggled, wasOn) := toggle resolution filter grid x y
      let (finished, collided) := toggleAll resolution filter rest toggled
      (finished, wasOn || collided)

def draw (screen : Screen) (sprite : Sprite) (wraps : Bool) : Screen × Bool :=
  match screen with
  | ⟨grid, resolution, filter⟩ =>
      let (drawn, collided) :=
        toggleAll resolution filter (sprite.targets resolution wraps) grid
      (⟨drawn, resolution, filter⟩, collided)

def scrollDown (screen : Screen) (rows : Nat) : Screen :=
  { screen with grid := screen.grid.shiftDown (rows * screen.resolution.cellsDown) }

def scrollRight (screen : Screen) (columns : Nat) : Screen :=
  { screen with grid := screen.grid.shiftRight (columns * screen.resolution.cellsAcross) }

def scrollLeft (screen : Screen) (columns : Nat) : Screen :=
  { screen with grid := screen.grid.shiftLeft (columns * screen.resolution.cellsAcross) }

def age (screen : Screen) : Screen :=
  { screen with grid := screen.grid.map Pixel.age }

def frame (screen : Screen) : Frame where
  resolution := screen.resolution
  filter := screen.filter
  pixels := Array.ofFn (n := screen.resolution.width * screen.resolution.height) fun index =>
    screen.pixel (index.val % screen.resolution.width) (index.val / screen.resolution.width)
  size_eq := Array.size_ofFn

end Screen

end Chip8
