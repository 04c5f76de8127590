import Chip8.Proofs.Scrolling
import Chip8.Proofs.Strokes

set_option autoImplicit false

/-!
Screens whose blocks are even: all cells of a logical pixel are alike. The upper left cell, which is
the only one that is ever looked at, then stands for its block (`Grid.Even`). Drawing, clearing,
scrolling and ageing keep blocks even, and the blocks of a finer resolution lie inside those of a
coarser one, so a screen that never goes back to a coarser resolution stays even
(`even_strikeAll?`).

Main statement: on such a screen every change to a finer resolution magnifies the picture, and what
is drawn and scrolled is the same at both resolutions (`magnifies_exactly`).
-/

namespace Chip8

/-! ### Blocks -/

namespace Resolution

/-- No block of the resolution is larger than one of the other. -/
def AtLeast (fine coarse : Resolution) : Prop :=
  fine.cellsAcross ≤ coarse.cellsAcross ∧ fine.cellsDown ≤ coarse.cellsDown

instance (fine coarse : Resolution) : Decidable (fine.AtLeast coarse) := by
  unfold AtLeast
  infer_instance

/-- The upper left cell of the block in which a cell lies. -/
def corner (resolution : Resolution) (place : Nat × Nat) : Nat × Nat :=
  (place.1 / resolution.cellsAcross * resolution.cellsAcross,
    place.2 / resolution.cellsDown * resolution.cellsDown)

/-- How many pixels of a finer resolution lie side by side in one of a coarser resolution. -/
def pixelsAcross (coarse fine : Resolution) : Nat :=
  coarse.cellsAcross / fine.cellsAcross

def pixelsDown (coarse fine : Resolution) : Nat :=
  coarse.cellsDown / fine.cellsDown

/-- The pixels of a finer resolution that lie in one of a coarser resolution. -/
def block (coarse fine : Resolution) (pixel : Nat × Nat) : List (Nat × Nat) :=
  (List.range (coarse.pixelsDown fine)).flatMap fun down =>
    (List.range (coarse.pixelsAcross fine)).map fun across =>
      (pixel.1 * coarse.pixelsAcross fine + across, pixel.2 * coarse.pixelsDown fine + down)

theorem corner_inside_grid (resolution : Resolution) {place : Nat × Nat}
    (inside : place.1 < 128 ∧ place.2 < 64) :
    (resolution.corner place).1 < 128 ∧ (resolution.corner place).2 < 64 :=
  ⟨Nat.lt_of_le_of_lt (Nat.div_mul_le_self _ _) inside.1,
    Nat.lt_of_le_of_lt (Nat.div_mul_le_self _ _) inside.2⟩

/-- A cell lies in the block of a pixel if the upper left one of its own block does. -/
theorem corner_in_block_iff (resolution : Resolution) (place : Nat × Nat) (x y : Nat) :
    ((x * resolution.cellsAcross ≤ (resolution.corner place).1 ∧
        (resolution.corner place).1 < x * resolution.cellsAcross + resolution.cellsAcross) ∧
      (y * resolution.cellsDown ≤ (resolution.corner place).2 ∧
        (resolution.corner place).2 < y * resolution.cellsDown + resolution.cellsDown)) ↔
      ((x * resolution.cellsAcross ≤ place.1 ∧
          place.1 < x * resolution.cellsAcross + resolution.cellsAcross) ∧
        (y * resolution.cellsDown ≤ place.2 ∧
          place.2 < y * resolution.cellsDown + resolution.cellsDown)) := by
  cases resolution <;> simp only [corner, cellsAcross, cellsDown] <;> omega

section Nested

variable {fine coarse : Resolution} (finer : fine.AtLeast coarse)

include finer

theorem cellsAcross_eq : coarse.cellsAcross = coarse.pixelsAcross fine * fine.cellsAcross := by
  revert finer
  cases fine <;> cases coarse <;> decide

theorem cellsDown_eq : coarse.cellsDown = coarse.pixelsDown fine * fine.cellsDown := by
  revert finer
  cases fine <;> cases coarse <;> decide

theorem cells_div_mul (direction : Direction) :
    direction.cells coarse / direction.cells fine * direction.cells fine =
      direction.cells coarse := by
  cases direction with
  | down => exact (cellsDown_eq finer).symm
  | sideways side => exact (cellsAcross_eq finer).symm

theorem pixelsAcross_pos : 0 < coarse.pixelsAcross fine :=
  Nat.div_pos finer.1 fine.cellsAcross_pos

theorem pixelsDown_pos : 0 < coarse.pixelsDown fine :=
  Nat.div_pos finer.2 fine.cellsDown_pos

theorem width_eq : fine.width = coarse.width * coarse.pixelsAcross fine := by
  apply Nat.eq_of_mul_eq_mul_right fine.cellsAcross_pos
  rw [Nat.mul_assoc, ← cellsAcross_eq finer, fine.width_mul_cellsAcross,
    coarse.width_mul_cellsAcross]

theorem height_eq : fine.height = coarse.height * coarse.pixelsDown fine := by
  apply Nat.eq_of_mul_eq_mul_right fine.cellsDown_pos
  rw [Nat.mul_assoc, ← cellsDown_eq finer, fine.height_mul_cellsDown,
    coarse.height_mul_cellsDown]

theorem corner_corner (place : Nat × Nat) :
    coarse.corner (fine.corner place) = coarse.corner place := by
  revert finer
  cases fine <;> cases coarse <;>
    simp only [AtLeast, corner, cellsAcross, cellsDown, Prod.mk.injEq] <;> omega

theorem mem_block_iff (x y blockX blockY : Nat) :
    (x, y) ∈ coarse.block fine (blockX, blockY) ↔
      x / coarse.pixelsAcross fine = blockX ∧ y / coarse.pixelsDown fine = blockY := by
  have across := pixelsAcross_pos finer
  have down := pixelsDown_pos finer
  simp only [block, List.mem_flatMap, List.mem_map, List.mem_range, Prod.mk.injEq]
  constructor
  · rintro ⟨below, belowFits, beside, besideFits, rfl, rfl⟩
    rw [Nat.mul_comm blockX, Nat.mul_comm blockY, Nat.mul_add_div across, Nat.mul_add_div down,
      Nat.div_eq_of_lt besideFits, Nat.div_eq_of_lt belowFits]
    exact ⟨rfl, rfl⟩
  · rintro ⟨rfl, rfl⟩
    exact ⟨_, Nat.mod_lt y down, _, Nat.mod_lt x across, Nat.div_add_mod' x _,
      Nat.div_add_mod' y _⟩

theorem nodup_block (pixel : Nat × Nat) : (coarse.block fine pixel).Nodup := by
  revert finer
  cases fine <;> cases coarse <;>
    simp [AtLeast, block, pixelsAcross, pixelsDown, cellsAcross, cellsDown, List.range_succ]

theorem block_inside (pixel : Nat × Nat)
    (inside : pixel.1 < coarse.width ∧ pixel.2 < coarse.height) :
    ∀ part ∈ coarse.block fine pixel, part.1 < fine.width ∧ part.2 < fine.height := by
  rintro ⟨x, y⟩ member
  obtain ⟨column, row⟩ := (mem_block_iff finer x y pixel.1 pixel.2).mp member
  rw [width_eq finer, height_eq finer]
  rw [← column, ← row] at inside
  exact ⟨(Nat.div_lt_iff_lt_mul (pixelsAcross_pos finer)).mp inside.1,
    (Nat.div_lt_iff_lt_mul (pixelsDown_pos finer)).mp inside.2⟩

end Nested

end Resolution

/-! ### Places that are moved by whole pixels -/

section Multiples

variable {size : Nat} (positive : 0 < size) (count place : Nat)

include positive

private theorem le_corner_iff : count * size ≤ place / size * size ↔ count * size ≤ place := by
  rw [Nat.mul_le_mul_right_iff positive, Nat.le_div_iff_mul_le positive]

private theorem corner_add :
    place / size * size + count * size = (place + count * size) / size * size := by
  rw [Nat.add_mul_div_right _ _ positive, Nat.add_mul]

end Multiples

private theorem corner_sub (size count place : Nat) :
    place / size * size - count * size = (place - count * size) / size * size := by
  rw [Nat.mul_comm count, Nat.sub_mul_div, Nat.sub_mul, Nat.mul_comm size]

/-- Blocks are filled from blocks when whole pixels are moved. -/
theorem Direction.source?_corner (resolution : Resolution) (count : Nat) (direction : Direction)
    (place : Nat × Nat) :
    direction.source? (count * direction.cells resolution) (resolution.corner place) =
      (direction.source? (count * direction.cells resolution) place).map resolution.corner := by
  have across := resolution.cellsAcross_pos
  have down := resolution.cellsDown_pos
  rcases place with ⟨column, row⟩
  cases direction with
  | down =>
      by_cases reached : count * resolution.cellsDown ≤ row <;>
        simp [source?, cells, Resolution.corner, le_corner_iff down, corner_sub, reached]
  | sideways side =>
      cases side with
      | right =>
          by_cases reached : count * resolution.cellsAcross ≤ column <;>
            simp [source?, cells, Resolution.corner, le_corner_iff across, corner_sub, reached]
      | left =>
          have stays : (column + count * resolution.cellsAcross) / resolution.cellsAcross *
                resolution.cellsAcross < 128 ↔ column + count * resolution.cellsAcross < 128 := by
            rw [← resolution.width_mul_cellsAcross, ← Nat.not_le, le_corner_iff across, Nat.not_le]
          by_cases within : column + count * resolution.cellsAcross < 128 <;>
            simp [source?, cells, Resolution.corner, corner_add across, stays, within]

/-! ### Even grids -/

/-- Every cell is like the upper left one of its block. -/
def Grid.Even (resolution : Resolution) (grid : Grid) : Prop :=
  ∀ place : Nat × Nat, place.1 < 128 ∧ place.2 < 64 →
    grid.cell place.1 place.2 =
      grid.cell (resolution.corner place).1 (resolution.corner place).2

namespace Grid

variable {resolution : Resolution} {grid : Grid}

theorem even_dark (resolution : Resolution) : dark.Even resolution := by
  intro place _
  rw [cell_dark, cell_dark]

theorem Even.cell_eq_sample (even : grid.Even resolution) {column row : Nat}
    (inside : column < 128 ∧ row < 64) :
    grid.cell column row =
      grid.sample resolution (column / resolution.cellsAcross) (row / resolution.cellsDown) :=
  even (column, row) inside

/-- Even grids are equal when the same is seen of both. -/
theorem Even.ext {other : Grid} (even : grid.Even resolution) (evenToo : other.Even resolution)
    (same : ∀ x y, x < resolution.width → y < resolution.height →
      grid.sample resolution x y = other.sample resolution x y) : grid = other := by
  refine ext_cell fun column row fromLeft fromTop => ?_
  rw [even.cell_eq_sample ⟨fromLeft, fromTop⟩, evenToo.cell_eq_sample ⟨fromLeft, fromTop⟩]
  apply same
  · rw [Nat.div_lt_iff_lt_mul resolution.cellsAcross_pos, resolution.width_mul_cellsAcross]
    exact fromLeft
  · rw [Nat.div_lt_iff_lt_mul resolution.cellsDown_pos, resolution.height_mul_cellsDown]
    exact fromTop

theorem Even.map (even : grid.Even resolution) (change : Pixel → Pixel) :
    (grid.map change).Even resolution := by
  intro place inside
  rw [cell_map _ _ inside, cell_map _ _ (resolution.corner_inside_grid inside), even place inside]

theorem Even.toggle (even : grid.Even resolution) (filter : Filter) {x y : Nat}
    (column : x < resolution.width) (row : y < resolution.height) :
    (Screen.toggle resolution filter grid x y).1.Even resolution := by
  intro place inside
  have columnFits := resolution.column_fits column
  have rowFits := resolution.row_fits row
  rw [Screen.toggle, cell_updateBlock _ _ _ _ _ _ columnFits rowFits,
    cell_updateBlock _ _ _ _ _ _ columnFits rowFits, even place inside]
  simp only [resolution.corner_in_block_iff place x y]

theorem Even.toggleAll (even : grid.Even resolution) (filter : Filter) {pixels : List (Nat × Nat)}
    (inside : ∀ pixel ∈ pixels, pixel.1 < resolution.width ∧ pixel.2 < resolution.height) :
    (Screen.toggleAll resolution filter pixels grid).1.Even resolution := by
  induction pixels generalizing grid with
  | nil => exact even
  | cons head rest ih =>
      obtain ⟨⟨column, row⟩, insideRest⟩ := List.forall_mem_cons.mp inside
      exact ih (even.toggle filter column row) insideRest

theorem Even.shift (even : grid.Even resolution) (count : Nat) (direction : Direction) :
    (grid.shift (count * direction.cells resolution) direction).Even resolution := by
  intro place inside
  rw [cell_shift _ inside, cell_shift _ (resolution.corner_inside_grid inside)]
  have moved := Direction.source?_corner resolution count direction place
  cases found : direction.source? (count * direction.cells resolution) place with
  | none =>
      rw [found] at moved
      rw [moved]
      rfl
  | some source =>
      rw [found] at moved
      rw [moved]
      exact even source (Direction.source?_inside inside found)

/-- The blocks of a finer resolution lie in even blocks, so they are even. -/
theorem Even.refine {fine coarse : Resolution} (even : grid.Even coarse)
    (finer : fine.AtLeast coarse) : grid.Even fine := by
  intro place inside
  rw [even place inside, even _ (fine.corner_inside_grid inside),
    Resolution.corner_corner finer place]

/-- What a finer resolution shows of an even grid. -/
theorem Even.sample_eq {fine coarse : Resolution} (even : grid.Even coarse)
    (finer : fine.AtLeast coarse) {x y : Nat} (column : x < fine.width) (row : y < fine.height) :
    grid.sample fine x y =
      grid.sample coarse (x / coarse.pixelsAcross fine) (y / coarse.pixelsDown fine) := by
  have inside := fine.corner_inside column row
  rw [sample, even.cell_eq_sample inside]
  congr 1
  · rw [Resolution.cellsAcross_eq finer]
    exact Nat.mul_div_mul_right x _ fine.cellsAcross_pos
  · rw [Resolution.cellsDown_eq finer]
    exact Nat.mul_div_mul_right y _ fine.cellsDown_pos

end Grid

/-! ### Two resolutions of one grid -/

namespace Screen

section TwoResolutions

variable {fine coarse : Resolution} (finer : fine.AtLeast coarse) (filter : Filter) {grid : Grid}
  (even : grid.Even coarse)

include finer even

/-- Toggling an even block pixel by pixel is toggling it as a whole. -/
theorem toggleAll_block {x y : Nat} (column : x < coarse.width) (row : y < coarse.height) :
    toggleAll fine filter (coarse.block fine (x, y)) grid = toggle coarse filter grid x y := by
  have inside := Resolution.block_inside finer (x, y) ⟨column, row⟩
  have distinct := Resolution.nodup_block finer (x, y)
  have toggled := even.toggle filter column row
  apply Prod.ext
  · refine ((even.refine finer).toggleAll filter inside).ext (toggled.refine finer) ?_
    intro otherX otherY otherColumn otherRow
    rw [sample_toggleAll fine filter _ distinct inside,
      toggled.sample_eq finer otherColumn otherRow, sample_toggle coarse filter grid column row,
      even.sample_eq finer otherColumn otherRow]
    simp only [Resolution.mem_block_iff finer]
    by_cases same : otherX / coarse.pixelsAcross fine = x ∧ otherY / coarse.pixelsDown fine = y
    · rw [if_pos same, if_pos same, same.1, same.2]
    · rw [if_neg same, if_neg same]
  · have shown : ∀ part ∈ coarse.block fine (x, y),
        grid.sample fine part.1 part.2 = grid.sample coarse x y := by
      rintro ⟨partX, partY⟩ member
      obtain ⟨fitsAcross, fitsDown⟩ := inside _ member
      obtain ⟨sameX, sameY⟩ := (Resolution.mem_block_iff finer partX partY x y).mp member
      rw [even.sample_eq finer fitsAcross fitsDown, sameX, sameY]
    have corner : (x * coarse.pixelsAcross fine, y * coarse.pixelsDown fine) ∈
        coarse.block fine (x, y) := by
      rw [Resolution.mem_block_iff finer]
      exact ⟨Nat.mul_div_cancel x (Resolution.pixelsAcross_pos finer),
        Nat.mul_div_cancel y (Resolution.pixelsDown_pos finer)⟩
    rw [Bool.eq_iff_iff, toggleAll_collides fine filter _ distinct inside, toggle_collides]
    constructor
    · rintro ⟨part, member, on⟩
      rw [← shown part member]
      exact on
    · intro on
      exact ⟨_, corner, (congrArg Pixel.on (shown _ corner)).trans on⟩

end TwoResolutions

theorem toggleAll_blocks {fine coarse : Resolution} (finer : fine.AtLeast coarse) (filter : Filter)
    {grid : Grid} (even : grid.Even coarse) {pixels : List (Nat × Nat)}
    (inside : ∀ pixel ∈ pixels, pixel.1 < coarse.width ∧ pixel.2 < coarse.height) :
    toggleAll fine filter (pixels.flatMap (coarse.block fine)) grid =
      toggleAll coarse filter pixels grid := by
  induction pixels generalizing grid with
  | nil => rfl
  | cons head rest ih =>
      obtain ⟨⟨column, row⟩, insideRest⟩ := List.forall_mem_cons.mp inside
      rw [List.flatMap_cons, toggleAll_append, toggleAll_block finer filter even column row,
        ih (even.toggle filter column row) insideRest]
      rfl

end Screen

/-! ### Strokes that may break off -/

namespace Stroke

/-- A sprite has at most sixteen columns, and no resolution is followed by a coarser one. -/
def Refines (resolution : Resolution) : Stroke → Prop
  | .drawing (.draw sprite _) => sprite.width ≤ 16
  | .drawing _ => True
  | .reshape other => other.AtLeast resolution

/-- The cells of a scroll can be counted. -/
def Counts (resolution : Resolution) : Stroke → Prop
  | .drawing (.scrollDown rows) => rows * resolution.cellsDown ≤ Screen.longestScroll
  | .drawing (.scrollRight columns) | .drawing (.scrollLeft columns) =>
      columns * resolution.cellsAcross ≤ Screen.longestScroll
  | _ => True

def resolutionAfter (resolution : Resolution) : Stroke → Resolution
  | .drawing _ => resolution
  | .reshape other => other

instance (resolution : Resolution) : (stroke : Stroke) → Decidable (stroke.Refines resolution)
  | .drawing (.draw sprite _) => inferInstanceAs (Decidable (sprite.width ≤ 16))
  | .drawing (.scrollDown _) | .drawing (.scrollRight _) | .drawing (.scrollLeft _)
  | .drawing .clear | .drawing .age | .drawing (.setFilter _) => isTrue trivial
  | .reshape other => inferInstanceAs (Decidable (other.AtLeast resolution))

instance (resolution : Resolution) : (stroke : Stroke) → Decidable (stroke.Counts resolution)
  | .drawing (.scrollDown rows) =>
      inferInstanceAs (Decidable (rows * resolution.cellsDown ≤ Screen.longestScroll))
  | .drawing (.scrollRight columns) | .drawing (.scrollLeft columns) =>
      inferInstanceAs (Decidable (columns * resolution.cellsAcross ≤ Screen.longestScroll))
  | .drawing (.draw _ _) | .drawing .clear | .drawing .age | .drawing (.setFilter _)
  | .reshape _ => isTrue trivial

/-- Each stroke has a property at the resolution that those before it have left. -/
def Throughout (holds : Resolution → Stroke → Prop) : Resolution → List Stroke → Prop
  | _, [] => True
  | resolution, stroke :: rest =>
      holds resolution stroke ∧ Throughout holds (stroke.resolutionAfter resolution) rest

instance Throughout.decidable (holds : Resolution → Stroke → Prop)
    [(resolution : Resolution) → (stroke : Stroke) → Decidable (holds resolution stroke)] :
    (resolution : Resolution) → (strokes : List Stroke) →
      Decidable (Throughout holds resolution strokes)
  | _, [] => isTrue trivial
  | resolution, stroke :: rest =>
      have := Throughout.decidable holds (stroke.resolutionAfter resolution) rest
      inferInstanceAs (Decidable (_ ∧ _))

end Stroke

namespace Screen

def strike? (screen : Screen) : Stroke → Option Screen
  | .drawing drawing => (screen.carryOut? drawing).map Prod.fst
  | .reshape resolution => some (screen.setResolution resolution)

def strikeAll? (screen : Screen) : List Stroke → Option Screen
  | [] => some screen
  | stroke :: rest => (screen.strike? stroke).bind fun struck => struck.strikeAll? rest

/-- All cells of a logical pixel are alike. -/
def Even (screen : Screen) : Prop :=
  screen.grid.Even screen.resolution

variable {screen : Screen}

/-- Only scrolls can break off, and only when their cells cannot be counted. -/
theorem strike?_eq {stroke : Stroke} (refines : stroke.Refines screen.resolution) :
    screen.strike? stroke =
      if stroke.Counts screen.resolution then some (screen.apply stroke) else none := by
  cases stroke with
  | reshape resolution => rfl
  | drawing drawing =>
      cases drawing with
      | draw sprite wraps =>
          rw [strike?, carryOut?, tryDraw_eq screen refines]
          rfl
      | scrollDown rows =>
          rw [strike?, carryOut?, scrollDown?, Option.map_map, apply_ite (Option.map _)]
          rfl
      | scrollRight columns =>
          rw [strike?, carryOut?, scrollRight?, Option.map_map, apply_ite (Option.map _)]
          rfl
      | scrollLeft columns =>
          rw [strike?, carryOut?, scrollLeft?, Option.map_map, apply_ite (Option.map _)]
          rfl
      | clear | age | setFilter filter => rfl

theorem resolution_apply (screen : Screen) (stroke : Stroke) :
    (screen.apply stroke).resolution = stroke.resolutionAfter screen.resolution := by
  cases stroke with
  | reshape resolution => rfl
  | drawing drawing =>
      cases drawing with
      | scrollDown rows => rw [apply, scrollDown, Stroke.resolutionAfter]
      | scrollRight columns => rw [apply, scrollRight, Stroke.resolutionAfter]
      | scrollLeft columns => rw [apply, scrollLeft, Stroke.resolutionAfter]
      | draw sprite wraps | clear | age | setFilter filter => rfl

theorem even_apply (even : screen.Even) {stroke : Stroke}
    (refines : stroke.Refines screen.resolution) : (screen.apply stroke).Even := by
  cases stroke with
  | reshape resolution => exact Grid.Even.refine even refines
  | drawing drawing =>
      cases drawing with
      | draw sprite wraps =>
          exact Grid.Even.toggleAll even screen.filter fun _ => Sprite.targets_inside
      | clear | age => exact Grid.Even.map even _
      | setFilter filter => exact even
      | scrollDown rows =>
          rw [apply, scrollDown]
          exact Grid.Even.shift even rows .down
      | scrollRight columns =>
          rw [apply, scrollRight]
          exact Grid.Even.shift even columns (.sideways .right)
      | scrollLeft columns =>
          rw [apply, scrollLeft]
          exact Grid.Even.shift even columns (.sideways .left)

/-- A screen stays even that never goes back to a coarser resolution. -/
theorem even_strikeAll? (even : screen.Even) {strokes : List Stroke}
    (refines : Stroke.Throughout Stroke.Refines screen.resolution strokes) :
    ((∃ last, screen.strikeAll? strokes = some last) ↔
      Stroke.Throughout Stroke.Counts screen.resolution strokes) ∧
    ∀ last, screen.strikeAll? strokes = some last → last.Even := by
  induction strokes generalizing screen with
  | nil =>
      refine ⟨iff_of_true ⟨screen, rfl⟩ trivial, fun last struck => ?_⟩
      cases struck
      exact even
  | cons stroke rest ih =>
      obtain ⟨refinesFirst, refinesRest⟩ := refines
      rw [← screen.resolution_apply stroke] at refinesRest
      obtain ⟨counts, evenRest⟩ := ih (even_apply even refinesFirst) refinesRest
      rw [strikeAll?, strike?_eq refinesFirst, Stroke.Throughout, ← screen.resolution_apply stroke]
      by_cases countsFirst : stroke.Counts screen.resolution
      · rw [if_pos countsFirst, Option.bind_some]
        exact ⟨counts.trans (and_iff_right countsFirst).symm, evenRest⟩
      · rw [if_neg countsFirst, Option.bind_none]
        refine ⟨iff_of_false ?_ fun both => countsFirst both.1, fun last struck => ?_⟩
        · rintro ⟨last, struck⟩
          cases struck
        · cases struck

/-! ### Changes to a finer resolution -/

/-- An even screen and what becomes of it at a finer resolution. -/
structure Magnifies (screen : Screen) (finer : Resolution) : Prop where
  width : finer.width = screen.resolution.width * screen.resolution.pixelsAcross finer
  height : finer.height = screen.resolution.height * screen.resolution.pixelsDown finer
  /-- The frame shows each former pixel as a full block of pixels like it. -/
  frame : ∀ x y, x < screen.resolution.width → y < screen.resolution.height →
    screen.frame.pixel? x y = some (screen.pixel x y) ∧
      ∀ part ∈ screen.resolution.block finer (x, y),
        (screen.setResolution finer).frame.pixel? part.1 part.2 = some (screen.pixel x y)
  /-- To draw is to toggle the pixels of the blocks at the finer resolution, with the same
  collision. -/
  draw : ∀ (sprite : Sprite) (wraps : Bool), sprite.width ≤ 16 →
    let targets := (sprite.targets screen.resolution wraps).flatMap (screen.resolution.block finer)
    let toggled := toggleAll finer screen.filter targets screen.grid
    screen.tryDraw sprite wraps = (⟨toggled.1, screen.resolution, screen.filter⟩, some toggled.2)
  /-- What is drawn at the finer resolution collides with former pixels that are on, and otherwise
  only with itself. -/
  collision : ∀ (sprite : Sprite) (wraps : Bool), sprite.width ≤ 16 →
    ∃ collided, ((screen.setResolution finer).tryDraw sprite wraps).2 = some collided ∧
      (collided = true ↔
        (∃ target ∈ sprite.targets finer wraps,
          (screen.pixel (target.1 / screen.resolution.pixelsAcross finer)
            (target.2 / screen.resolution.pixelsDown finer)).on = true) ∨
          ¬(sprite.targets finer wraps).Nodup)
  /-- To scroll is to scroll by whole blocks at the finer resolution. -/
  scroll : ∀ (count : Nat) (direction : Direction),
    (screen.setResolution finer).scroll?
        (count * (direction.cells screen.resolution / direction.cells finer)) direction =
      (screen.scroll? count direction).map (·.setResolution finer)

theorem Even.blockCell_eq (even : screen.Even) (x y : Nat) {across down : Nat}
    (column : x < screen.resolution.width) (row : y < screen.resolution.height)
    (acrossWithin : across < screen.resolution.cellsAcross)
    (downWithin : down < screen.resolution.cellsDown) :
    screen.blockCell x y across down = screen.pixel x y := by
  have columnFits := screen.resolution.column_fits column
  have rowFits := screen.resolution.row_fits row
  rw [blockCell, Grid.Even.cell_eq_sample even ⟨by omega, by omega⟩,
    Nat.mul_comm x, Nat.mul_comm y, Nat.mul_add_div screen.resolution.cellsAcross_pos,
    Nat.mul_add_div screen.resolution.cellsDown_pos, Nat.div_eq_of_lt acrossWithin,
    Nat.div_eq_of_lt downWithin]
  rfl

theorem Even.magnifies (even : screen.Even) {finer : Resolution}
    (fine : finer.AtLeast screen.resolution) : screen.Magnifies finer where
  width := Resolution.width_eq fine
  height := Resolution.height_eq fine
  frame := by
    intro x y column row
    refine ⟨pixel?_frame column row, ?_⟩
    rintro ⟨partX, partY⟩ member
    obtain ⟨partColumn, partRow⟩ :=
      Resolution.block_inside fine (x, y) ⟨column, row⟩ _ member
    obtain ⟨sameX, sameY⟩ := (Resolution.mem_block_iff fine partX partY x y).mp member
    refine ((screen.setResolution finer).pixel?_frame partColumn partRow).trans ?_
    refine congrArg some ((Grid.Even.sample_eq even fine partColumn partRow).trans ?_)
    rw [sameX, sameY]
    rfl
  draw := by
    intro sprite wraps narrow
    have inside : ∀ target ∈ sprite.targets screen.resolution wraps,
        target.1 < screen.resolution.width ∧ target.2 < screen.resolution.height :=
      fun _ => Sprite.targets_inside
    simp only [toggleAll_blocks fine screen.filter even inside]
    rw [tryDraw_eq screen narrow]
    rfl
  collision := by
    intro sprite wraps narrow
    have inside : ∀ target ∈ sprite.targets finer wraps,
        target.1 < finer.width ∧ target.2 < finer.height := fun _ => Sprite.targets_inside
    refine ⟨_, congrArg Prod.snd (tryDraw_eq _ narrow wraps), ?_⟩
    refine (toggleAll_collides_iff finer screen.filter inside screen.grid).trans ?_
    refine or_congr (exists_congr fun target => and_congr_right fun member => ?_) Iff.rfl
    rw [Grid.Even.sample_eq even fine (inside target member).1 (inside target member).2]
    rfl
  scroll := by
    intro count direction
    have product : count * (direction.cells screen.resolution / direction.cells finer) *
        direction.cells finer = count * direction.cells screen.resolution := by
      rw [Nat.mul_assoc, Resolution.cells_div_mul fine]
    rw [scroll?_eq, scroll?_eq, apply_ite (Option.map _)]
    simp only [setResolution, product]
    rfl

/-- Changes to finer resolutions magnify the picture exactly. On a new screen, whatever is drawn,
cleared, scrolled, aged and filtered, all cells of a logical pixel are alike, on and glow, as long
as the resolution never goes back to a coarser one. So every change to a finer resolution shows
each former pixel as a full block, and drawing, colliding and scrolling do the same to the cells at
both resolutions. Nothing breaks off but a scroll whose cells cannot be counted. -/
theorem magnifies_exactly (filter : Filter) {strokes : List Stroke}
    (refines : Stroke.Throughout Stroke.Refines .low strokes) :
    ((∃ screen, (blank filter).strikeAll? strokes = some screen) ↔
      Stroke.Throughout Stroke.Counts .low strokes) ∧
    ∀ screen, (blank filter).strikeAll? strokes = some screen →
      (∀ x y across down, x < screen.resolution.width → y < screen.resolution.height →
        across < screen.resolution.cellsAcross → down < screen.resolution.cellsDown →
        screen.blockCell x y across down = screen.pixel x y) ∧
      ∀ finer : Resolution, finer.AtLeast screen.resolution → screen.Magnifies finer := by
  have even : (blank filter).Even := Grid.even_dark .low
  obtain ⟨counts, stays⟩ := even_strikeAll? even refines
  refine ⟨counts, fun screen struck => ?_⟩
  have evenThen := stays screen struck
  exact ⟨fun x y _ _ => evenThen.blockCell_eq x y, fun _ => evenThen.magnifies⟩

/-- Sprites over the lower right corner and over one another, some of whose pixels fade while the
resolution changes. -/
def growingStrokes : List Stroke :=
  [.drawing (.draw ⟨61, 30, [0xFF00, 0x8100, 0xFF00], 8⟩ true),
    .drawing (.draw ⟨62, 31, [0xFF00, 0x8100], 8⟩ false), .drawing .age, .reshape .tall,
    .drawing (.draw ⟨60, 61, [0xF0F0, 0x8001], 16⟩ true), .drawing (.setFilter .fixFlicker),
    .drawing (.scrollRight 3), .drawing (.scrollDown 1), .drawing .clear]

theorem magnifies_exactly_growing :
    Stroke.Throughout Stroke.Refines .low growingStrokes ∧
      ∃ screen, (blank .fade).strikeAll? growingStrokes = some screen ∧
        screen.resolution = .tall ∧ Resolution.high.AtLeast .tall ∧ screen.Magnifies .high := by
  obtain ⟨counts, shown⟩ := @magnifies_exactly .fade growingStrokes (by decide)
  obtain ⟨screen, struck⟩ := counts.mpr (by decide)
  have resolution : ((blank .fade).strikeAll? growingStrokes).map Screen.resolution =
      some .tall := rfl
  rw [struck, Option.map_some, Option.some.injEq] at resolution
  refine ⟨by decide, screen, struck, resolution, by decide, (shown screen struck).2 .high ?_⟩
  rw [resolution]
  decide

end Screen
end Chip8
