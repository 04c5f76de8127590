import Chip8.Screen

set_option autoImplicit false

/-!
Screens without glow. A pixel, a grid, a screen or a frame is made plain by taking away what still
glows, and the filter with it. What is on does not depend on what glows: every operation of the
screen does to the plain screen what it does to the screen, and tells the same (`draw_plain`,
`clear_plain`, the scrolls, `age_plain` and `frame_plain`).
-/

namespace Chip8

def Pixel.plain (pixel : Pixel) : Pixel := ⟨pixel.on, 0⟩

def Grid.plain (grid : Grid) : Grid := grid.map Pixel.plain

def Screen.plain (screen : Screen) : Screen := ⟨screen.grid.plain, screen.resolution, .none⟩

def Frame.plain (frame : Frame) : Frame where
  resolution := frame.resolution
  filter := .none
  pixels := frame.pixels.map Pixel.plain
  size_eq := Array.size_map.trans frame.size_eq

/-! ### Pixels -/

namespace Pixel

theorem plain_dark : dark.plain = dark := rfl

theorem plain_turnOn (pixel : Pixel) : (turnOn pixel).plain = turnOn pixel.plain := rfl

theorem plain_turnOff (filter : Filter) (pixel : Pixel) :
    (turnOff filter pixel).plain = turnOff .none pixel.plain := by
  rcases pixel with ⟨on, glow⟩
  cases on <;> rfl

theorem plain_age (pixel : Pixel) : pixel.age.plain = pixel.plain.age := rfl

end Pixel

/-! ### Grids -/

namespace Grid

variable (grid : Grid)

theorem cell_plain (column row : Nat) :
    grid.plain.cell column row = (grid.cell column row).plain := by
  by_cases inside : column < 128 ∧ row < 64
  · exact cell_map grid Pixel.plain inside
  · rw [cell_outside _ inside, cell_outside _ inside]
    rfl

theorem plain_dark : dark.plain = dark := by
  refine ext_cell fun column row _ _ => ?_
  rw [cell_plain, cell_dark]
  rfl

theorem plain_ofCells (content : Nat → Nat → Pixel) :
    (ofCells content).plain = ofCells fun column row => (content column row).plain := by
  refine ext_cell fun column row fromLeft fromTop => ?_
  rw [cell_plain, cell_ofCells _ ⟨fromLeft, fromTop⟩, cell_ofCells _ ⟨fromLeft, fromTop⟩]

theorem shiftDown_plain (rows : Nat) :
    grid.plain.shiftDown rows = (grid.shiftDown rows).plain := by
  simp only [shiftDown, plain_ofCells, cell_plain, apply_ite Pixel.plain, Pixel.plain_dark]

theorem shiftRight_plain (columns : Nat) :
    grid.plain.shiftRight columns = (grid.shiftRight columns).plain := by
  simp only [shiftRight, plain_ofCells, cell_plain, apply_ite Pixel.plain, Pixel.plain_dark]

theorem shiftLeft_plain (columns : Nat) :
    grid.plain.shiftLeft columns = (grid.shiftLeft columns).plain := by
  simp only [shiftLeft, plain_ofCells, cell_plain]

variable {change plainChange : Pixel → Pixel}
  (same : ∀ pixel : Pixel, (change pixel).plain = plainChange pixel.plain)
include same

theorem map_plain : grid.plain.map plainChange = (grid.map change).plain := by
  refine ext_cell fun column row fromLeft fromTop => ?_
  rw [cell_plain, cell_map _ _ ⟨fromLeft, fromTop⟩, cell_map _ _ ⟨fromLeft, fromTop⟩, cell_plain,
    same]

theorem update_plain (column row : Nat) :
    grid.plain.update column row plainChange = (grid.update column row change).plain := by
  by_cases inside : column < 128 ∧ row < 64
  · refine ext_cell fun otherColumn otherRow _ _ => ?_
    rw [cell_plain, cell_update _ _ inside, cell_update _ _ inside, cell_plain, cell_plain]
    by_cases here : otherColumn = column ∧ otherRow = row
    · rw [if_pos here, if_pos here, same]
    · rw [if_neg here, if_neg here]
  · rw [update, dif_neg inside, update, dif_neg inside]

theorem updateRow_plain (column row count : Nat) :
    grid.plain.updateRow column row plainChange count =
      (grid.updateRow column row change count).plain := by
  induction count generalizing grid with
  | zero => rfl
  | succ count ih => rw [updateRow, updateRow, update_plain grid same, ih]

theorem updateBlock_plain (column row width count : Nat) :
    grid.plain.updateBlock column row width plainChange count =
      (grid.updateBlock column row width change count).plain := by
  induction count generalizing grid with
  | zero => rfl
  | succ count ih => rw [updateBlock, updateBlock, updateRow_plain grid same, ih]

end Grid

/-! ### Screens -/

namespace Screen

theorem toggle_plain (resolution : Resolution) (filter : Filter) (grid : Grid) (x y : Nat) :
    toggle resolution .none grid.plain x y =
      ((toggle resolution filter grid x y).1.plain, (toggle resolution filter grid x y).2) := by
  have wasOn : (grid.plain.cell (x * resolution.cellsAcross) (y * resolution.cellsDown)).on =
      (grid.cell (x * resolution.cellsAcross) (y * resolution.cellsDown)).on := by
    rw [Grid.cell_plain]
    rfl
  simp only [toggle, wasOn]
  cases (grid.cell (x * resolution.cellsAcross) (y * resolution.cellsDown)).on with
  | true => exact congrArg (·, true) (grid.updateBlock_plain (Pixel.plain_turnOff filter) _ _ _ _)
  | false => exact congrArg (·, false) (grid.updateBlock_plain Pixel.plain_turnOn _ _ _ _)

theorem toggleAll_plain (resolution : Resolution) (filter : Filter) (pixels : List (Nat × Nat))
    (grid : Grid) :
    toggleAll resolution .none pixels grid.plain =
      ((toggleAll resolution filter pixels grid).1.plain,
        (toggleAll resolution filter pixels grid).2) := by
  induction pixels generalizing grid with
  | nil => rfl
  | cons pixel rest ih =>
      rcases pixel with ⟨x, y⟩
      simp only [toggleAll, toggle_plain resolution filter grid x y, ih]

variable (screen : Screen)

theorem grid_plain : screen.plain.grid = screen.grid.plain := rfl

theorem resolution_plain : screen.plain.resolution = screen.resolution := rfl

theorem draw_plain (sprite : Sprite) (wraps : Bool) :
    screen.plain.draw sprite wraps =
      ((screen.draw sprite wraps).1.plain, (screen.draw sprite wraps).2) := by
  rcases screen with ⟨grid, resolution, filter⟩
  have toggled :=
    toggleAll_plain resolution filter (sprite.targets resolution wraps) grid
  simp only [draw, plain, toggled]

theorem clear_plain : screen.plain.clear = screen.clear.plain :=
  congrArg (Screen.mk · screen.resolution .none)
    (screen.grid.map_plain (Pixel.plain_turnOff screen.filter))

theorem age_plain : screen.plain.age = screen.age.plain :=
  congrArg (Screen.mk · screen.resolution .none) (screen.grid.map_plain Pixel.plain_age)

theorem scrollDown_plain (rows : Nat) :
    screen.plain.scrollDown rows = (screen.scrollDown rows).plain := by
  rw [scrollDown, scrollDown, grid_plain, resolution_plain, Grid.shiftDown_plain]
  rfl

theorem scrollRight_plain (columns : Nat) :
    screen.plain.scrollRight columns = (screen.scrollRight columns).plain := by
  rw [scrollRight, scrollRight, grid_plain, resolution_plain, Grid.shiftRight_plain]
  rfl

theorem scrollLeft_plain (columns : Nat) :
    screen.plain.scrollLeft columns = (screen.scrollLeft columns).plain := by
  rw [scrollLeft, scrollLeft, grid_plain, resolution_plain, Grid.shiftLeft_plain]
  rfl

theorem frame_plain : screen.plain.frame = screen.frame.plain := by
  have pixel (x y : Nat) : screen.plain.pixel x y = (screen.pixel x y).plain :=
    Grid.cell_plain _ _ _
  have pixels : screen.plain.frame.pixels = screen.frame.plain.pixels := by
    apply Array.ext
    · rw [screen.plain.frame.size_eq, screen.frame.plain.size_eq]
      rfl
    · intro index inside within
      simp only [frame, Frame.plain, Array.getElem_map, Array.getElem_ofFn]
      exact pixel _ _
  simp only [frame, Frame.plain] at pixels ⊢
  exact (Frame.mk.injEq ..).mpr ⟨rfl, rfl, pixels⟩

end Screen
end Chip8
