import Chip8.Screen.Reach
import Mathlib.Data.List.Nodup

set_option autoImplicit false

/-!
The screen seen through its logical pixels. A logical pixel stands for a block of cells and shows
the upper left one, so every operation is described by what it does to these samples, however
the other cells of a block differ from them.

A sprite of at most sixteen rows and columns has no two dots on one pixel (`nodup_targets`), so it
toggles all the pixels that it covers at once (`sample_toggleAll`).
-/

namespace Chip8

def Pixel.toggled (filter : Filter) (pixel : Pixel) : Pixel :=
  if pixel.on then ⟨false, filter.delay⟩ else ⟨true, 0⟩

namespace Resolution

theorem column_fits (resolution : Resolution) {x : Nat} (inside : x < resolution.width) :
    x * resolution.cellsAcross + resolution.cellsAcross ≤ 128 := by
  cases resolution <;> simp only [width, cellsAcross] at inside ⊢ <;> omega

theorem row_fits (resolution : Resolution) {y : Nat} (inside : y < resolution.height) :
    y * resolution.cellsDown + resolution.cellsDown ≤ 64 := by
  cases resolution <;> simp only [height, cellsDown] at inside ⊢ <;> omega

theorem corner_inside (resolution : Resolution) {x y : Nat} (column : x < resolution.width)
    (row : y < resolution.height) :
    x * resolution.cellsAcross < 128 ∧ y * resolution.cellsDown < 64 := by
  have across := resolution.cellsAcross_pos
  have down := resolution.cellsDown_pos
  have columnFits := resolution.column_fits column
  have rowFits := resolution.row_fits row
  omega

theorem corner_in_block (resolution : Resolution) (x y blockX blockY : Nat) :
    ((blockX * resolution.cellsAcross ≤ x * resolution.cellsAcross ∧
        x * resolution.cellsAcross < blockX * resolution.cellsAcross + resolution.cellsAcross) ∧
      (blockY * resolution.cellsDown ≤ y * resolution.cellsDown ∧
        y * resolution.cellsDown < blockY * resolution.cellsDown + resolution.cellsDown)) ↔
      x = blockX ∧ y = blockY := by
  cases resolution <;> simp only [cellsAcross, cellsDown] <;> omega

end Resolution

/-- The cell that a logical pixel shows. -/
def Grid.sample (grid : Grid) (resolution : Resolution) (x y : Nat) : Pixel :=
  grid.cell (x * resolution.cellsAcross) (y * resolution.cellsDown)

namespace Screen

section Moving

variable (screen : Screen) {x y : Nat} (column : x < screen.resolution.width)
  (row : y < screen.resolution.height)

include column row

theorem pixel_clear : screen.clear.pixel x y = (screen.pixel x y).turnOff screen.filter :=
  Grid.cell_map _ _ (screen.resolution.corner_inside column row)

theorem pixel_age : screen.age.pixel x y = (screen.pixel x y).age :=
  Grid.cell_map _ _ (screen.resolution.corner_inside column row)

theorem pixel_scrollDown (rows : Nat) :
    (screen.scrollDown rows).pixel x y =
      if rows ≤ y then screen.pixel x (y - rows) else Pixel.dark := by
  have down := screen.resolution.cellsDown_pos
  rw [pixel, scrollDown]
  simp only
  rw [Grid.shiftDown, Grid.cell_ofCells _ (screen.resolution.corner_inside column row)]
  by_cases reached : rows ≤ y
  · have below := Nat.mul_le_mul_right screen.resolution.cellsDown reached
    rw [if_neg (Nat.not_lt.mpr below), if_pos reached, ← Nat.sub_mul, pixel]
  · have above := Nat.mul_lt_mul_of_pos_right (Nat.not_le.mp reached) down
    rw [if_pos above, if_neg reached]

theorem pixel_scrollRight (columns : Nat) :
    (screen.scrollRight columns).pixel x y =
      if columns ≤ x then screen.pixel (x - columns) y else Pixel.dark := by
  have across := screen.resolution.cellsAcross_pos
  rw [pixel, scrollRight]
  simp only
  rw [Grid.shiftRight, Grid.cell_ofCells _ (screen.resolution.corner_inside column row)]
  by_cases reached : columns ≤ x
  · have behind := Nat.mul_le_mul_right screen.resolution.cellsAcross reached
    rw [if_neg (Nat.not_lt.mpr behind), if_pos reached, ← Nat.sub_mul, pixel]
  · have before := Nat.mul_lt_mul_of_pos_right (Nat.not_le.mp reached) across
    rw [if_pos before, if_neg reached]

theorem pixel_scrollLeft (columns : Nat) :
    (screen.scrollLeft columns).pixel x y =
      if x + columns < screen.resolution.width then screen.pixel (x + columns) y
      else Pixel.dark := by
  rw [pixel, scrollLeft]
  simp only
  rw [Grid.shiftLeft, Grid.cell_ofCells _ (screen.resolution.corner_inside column row),
    ← Nat.add_mul]
  by_cases inside : x + columns < screen.resolution.width
  · rw [if_pos inside, pixel]
  · have beyond := Nat.mul_le_mul_right screen.resolution.cellsAcross (Nat.not_lt.mp inside)
    rw [screen.resolution.width_mul_cellsAcross] at beyond
    rw [if_neg inside]
    exact Grid.cell_outside _ (fun both => absurd both.1 (Nat.not_lt.mpr beyond))

end Moving

section Toggling

variable (resolution : Resolution) (filter : Filter)

theorem sample_toggle (grid : Grid) {x y : Nat} (column : x < resolution.width)
    (row : y < resolution.height) (otherX otherY : Nat) :
    (toggle resolution filter grid x y).1.sample resolution otherX otherY =
      if otherX = x ∧ otherY = y then (grid.sample resolution x y).toggled filter
      else grid.sample resolution otherX otherY := by
  rw [Grid.sample, toggle, Grid.cell_updateBlock _ _ _ _ _ _ (resolution.column_fits column)
    (resolution.row_fits row)]
  simp only [resolution.corner_in_block]
  by_cases same : otherX = x ∧ otherY = y
  · obtain ⟨rfl, rfl⟩ := same
    simp only [and_self, if_true]
    by_cases on : (grid.sample resolution otherX otherY).on = true
    · rw [Pixel.toggled, if_pos on]
      rw [Grid.sample] at on
      rw [if_pos on, Pixel.turnOff, if_pos on]
    · rw [Pixel.toggled, if_neg on]
      rw [Grid.sample] at on
      rw [if_neg on, Pixel.turnOn]
  · rw [if_neg same, if_neg same]
    rfl

theorem toggle_collides (grid : Grid) (x y : Nat) :
    (toggle resolution filter grid x y).2 = (grid.sample resolution x y).on := rfl

theorem sample_toggleAll (pixels : List (Nat × Nat)) (distinct : pixels.Nodup)
    (inside : ∀ pixel ∈ pixels, pixel.1 < resolution.width ∧ pixel.2 < resolution.height)
    (grid : Grid) (x y : Nat) :
    (toggleAll resolution filter pixels grid).1.sample resolution x y =
      if (x, y) ∈ pixels then (grid.sample resolution x y).toggled filter
      else grid.sample resolution x y := by
  induction pixels generalizing grid with
  | nil => rw [if_neg (List.not_mem_nil)]; rfl
  | cons head rest ih =>
      rcases head with ⟨headX, headY⟩
      obtain ⟨fresh, distinctRest⟩ := List.nodup_cons.mp distinct
      obtain ⟨column, row⟩ := inside (headX, headY) List.mem_cons_self
      have insideRest : ∀ pixel ∈ rest,
          pixel.1 < resolution.width ∧ pixel.2 < resolution.height :=
        fun pixel member => inside pixel (List.mem_cons_of_mem _ member)
      rw [toggleAll]
      simp only
      rw [ih distinctRest insideRest, sample_toggle resolution filter grid column row]
      by_cases same : x = headX ∧ y = headY
      · obtain ⟨rfl, rfl⟩ := same
        rw [if_neg fresh, if_pos ⟨rfl, rfl⟩, if_pos List.mem_cons_self]
      · have member : (x, y) ∈ (headX, headY) :: rest ↔ (x, y) ∈ rest := by
          simp [same]
        simp only [if_neg same, member]

theorem toggleAll_append (first second : List (Nat × Nat)) (grid : Grid) :
    toggleAll resolution filter (first ++ second) grid =
      ((toggleAll resolution filter second (toggleAll resolution filter first grid).1).1,
        (toggleAll resolution filter first grid).2 ||
          (toggleAll resolution filter second (toggleAll resolution filter first grid).1).2) := by
  induction first generalizing grid with
  | nil => rfl
  | cons head rest ih => simp only [List.cons_append, toggleAll, ih, Bool.or_assoc]

/-- Toggled one after the other, pixels collide if one of them is on or comes twice. -/
theorem toggleAll_collides_iff {pixels : List (Nat × Nat)}
    (inside : ∀ pixel ∈ pixels, pixel.1 < resolution.width ∧ pixel.2 < resolution.height)
    (grid : Grid) :
    (toggleAll resolution filter pixels grid).2 = true ↔
      (∃ pixel ∈ pixels, (grid.sample resolution pixel.1 pixel.2).on = true) ∨ ¬pixels.Nodup := by
  induction pixels generalizing grid with
  | nil => simp [toggleAll]
  | cons head rest ih =>
      obtain ⟨⟨column, row⟩, insideRest⟩ := List.forall_mem_cons.mp inside
      rw [toggleAll]
      simp only
      rw [Bool.or_eq_true, ih insideRest, toggle_collides, List.nodup_cons,
        List.exists_mem_cons_iff]
      by_cases on : (grid.sample resolution head.1 head.2).on = true
      · simp only [on, true_or]
      · -- An off pixel is on behind its toggle, so it is met again on if it comes again.
        have met : ∀ pixel : Nat × Nat,
            ((toggle resolution filter grid head.1 head.2).1.sample resolution
                pixel.1 pixel.2).on = true ↔
              pixel = head ∨ (grid.sample resolution pixel.1 pixel.2).on = true := by
          intro pixel
          rw [sample_toggle resolution filter grid column row]
          by_cases same : pixel = head
          · rw [same, if_pos ⟨rfl, rfl⟩, Pixel.toggled, if_neg on]
            exact iff_of_true rfl (.inl rfl)
          · rw [if_neg fun both => same (Prod.ext both.1 both.2)]
            exact (or_iff_right same).symm
        simp only [on, met, not_and_or, not_not, and_or_left, exists_or,
          exists_eq_right, or_assoc]
        grind

theorem toggleAll_collides (pixels : List (Nat × Nat)) (distinct : pixels.Nodup)
    (inside : ∀ pixel ∈ pixels, pixel.1 < resolution.width ∧ pixel.2 < resolution.height)
    (grid : Grid) :
    (toggleAll resolution filter pixels grid).2 = true ↔
      ∃ pixel ∈ pixels, (grid.sample resolution pixel.1 pixel.2).on = true := by
  rw [toggleAll_collides_iff resolution filter inside grid]
  exact or_iff_left (not_not_intro distinct)

end Toggling

end Screen

/-! ### The pixels that a sprite covers -/

namespace Sprite

theorem mem_dots_iff (sprite : Sprite) (column row : Nat) :
    (column, row) ∈ sprite.dots ↔
      ∃ bits, sprite.rows[row]? = some bits ∧ column < sprite.width ∧
        hasDot bits column = true := by
  rw [dots, List.mem_flatMap]
  constructor
  · rintro ⟨line, member, found⟩
    obtain ⟨dot, among, same⟩ := List.mem_map.mp found
    obtain ⟨within, has⟩ := List.mem_filter.mp among
    cases same
    have position := List.mem_zipIdx_iff_getElem?.mp member
    exact ⟨line.1, position, by have := List.mem_range.mp within; omega, has⟩
  · rintro ⟨bits, position, within, has⟩
    refine ⟨(bits, row), List.mem_zipIdx_iff_getElem?.mpr position, ?_⟩
    have narrow : column < 16 := by
      simp only [hasDot, Bool.and_eq_true, decide_eq_true_eq] at has
      exact has.1
    exact List.mem_map.mpr ⟨column,
      List.mem_filter.mpr ⟨List.mem_range.mpr (by omega), has⟩, rfl⟩

private theorem nodup_lines (width : Nat) (rows : List UInt16) (first : Nat) :
    (((rows.zipIdx first).flatMap fun line =>
        ((List.range width).filter (hasDot line.1)).map fun column => (column, line.2)).Nodup) ∧
      ∀ dot ∈ (rows.zipIdx first).flatMap fun line =>
        ((List.range width).filter (hasDot line.1)).map fun column => (column, line.2),
        first ≤ dot.2 := by
  induction rows generalizing first with
  | nil => simp
  | cons bits rows ih =>
      obtain ⟨distinct, later⟩ := ih (first + 1)
      rw [List.zipIdx_cons, List.flatMap_cons]
      constructor
      · refine List.nodup_append.mpr ⟨?_, distinct, ?_⟩
        · refine List.Nodup.map ?_ (List.nodup_range.filter _)
          intro left right same
          exact (Prod.mk.inj same).1
        · intro dot here other there same
          obtain ⟨column, _, rfl⟩ := List.mem_map.mp here
          have below := later other there
          rw [← same] at below
          exact Nat.not_succ_le_self first below
      · intro dot member
        rcases List.mem_append.mp member with here | there
        · obtain ⟨column, _, rfl⟩ := List.mem_map.mp here
          exact Nat.le_refl first
        · exact Nat.le_of_succ_le (later dot there)

theorem nodup_dots (sprite : Sprite) : sprite.dots.Nodup :=
  (nodup_lines _ sprite.rows 0).1

theorem target?_injective {sprite : Sprite} {resolution : Resolution} {wraps : Bool}
    {dot other pixel : Nat × Nat} (near : dot.1 < 16 ∧ dot.2 < 16)
    (otherNear : other.1 < 16 ∧ other.2 < 16)
    (found : sprite.target? resolution wraps dot = some pixel)
    (otherFound : sprite.target? resolution wraps other = some pixel) : dot = other := by
  rcases dot with ⟨column, row⟩
  rcases other with ⟨otherColumn, otherRow⟩
  rcases pixel with ⟨x, y⟩
  simp only at near otherNear
  unfold target? at found otherFound
  cases wraps with
  | true =>
      simp only [if_true, Option.some.injEq, Prod.mk.injEq] at found otherFound
      cases resolution <;>
        simp only [Resolution.width, Resolution.height, Resolution.cellsAcross,
          Resolution.cellsDown] at found otherFound <;>
        simp only [Prod.mk.injEq] <;> omega
  | false =>
      simp only [Bool.false_eq_true, if_false, Option.ite_none_right_eq_some, Option.some.injEq,
        Prod.mk.injEq] at found otherFound
      simp only [Prod.mk.injEq]
      omega

/-- No two dots of a sprite of sixteen rows at most fall on one pixel. -/
theorem nodup_targets {sprite : Sprite} (short : sprite.rows.length ≤ 16)
    (resolution : Resolution) (wraps : Bool) : (sprite.targets resolution wraps).Nodup := by
  have near : ∀ dot ∈ sprite.dots, dot.1 < 16 ∧ dot.2 < 16 := by
    rintro ⟨column, row⟩ member
    obtain ⟨bits, position, _, has⟩ := (sprite.mem_dots_iff column row).mp member
    obtain ⟨inRows, _⟩ := List.getElem?_eq_some_iff.mp position
    simp only [hasDot, Bool.and_eq_true, decide_eq_true_eq] at has
    exact ⟨has.1, by omega⟩
  refine List.pairwise_filterMap.mpr (sprite.nodup_dots.imp_of_mem ?_)
  intro dot other member otherMember apart pixel found otherPixel otherFound same
  subst same
  exact apart (target?_injective (near dot member) (near other otherMember) found otherFound)

end Sprite
end Chip8
