import Chip8.Proofs.Picture

set_option autoImplicit false

/-!
What is done to a screen, one stroke after the other, seen from a single pixel and from a single
cell. A stroke that spares a pixel leaves it as it is while it is off, whether it glows or not
(`spared`); one that draws or clears leaves a pixel as it was, on without a glow, or off with the
whole glow of the filter (`drawn`).

Main statement: on a new screen and after any strokes, no cell is on that glows, and no cell glows
for longer than the filters allow that the screen has had (`kept_applyAll`).
-/

namespace Chip8

/-- A drawing, or a change of the resolution. -/
inductive Stroke where
  | drawing (drawing : Drawing)
  | reshape (resolution : Resolution)

namespace Stroke

/-- A stroke that draws or clears and leaves the resolution as it is. -/
def DrawsOrClears (resolution : Resolution) : Stroke → Prop
  | .drawing (.draw _ _) | .drawing .clear => True
  | .reshape other => other = resolution
  | _ => False

/-- A stroke that neither draws on a pixel nor scrolls it away nor changes the resolution. -/
def Spares (resolution : Resolution) (x y : Nat) : Stroke → Prop
  | .drawing (.draw sprite wraps) =>
      ¬ sprite.Covers resolution.width resolution.height wraps x y
  | .drawing .clear | .drawing (.setFilter _) => True
  | .drawing (.scrollDown shift) | .drawing (.scrollRight shift)
  | .drawing (.scrollLeft shift) => shift = 0
  | .drawing .age => False
  | .reshape other => other = resolution

/-- The filter that a stroke brings. -/
def filter? : Stroke → Option Filter
  | .drawing (.setFilter filter) => some filter
  | _ => none

theorem eq_of_filter? {stroke : Stroke} {filter : Filter} (brings : stroke.filter? = some filter) :
    stroke = .drawing (.setFilter filter) := by
  cases stroke with
  | reshape resolution => cases brings
  | drawing drawing =>
      cases drawing with
      | setFilter other =>
          cases brings
          rfl
      | _ => cases brings

instance (resolution : Resolution) (stroke : Stroke) :
    Decidable (stroke.DrawsOrClears resolution) := by
  unfold DrawsOrClears
  split <;> infer_instance

instance (resolution : Resolution) (x y : Nat) (stroke : Stroke) :
    Decidable (stroke.Spares resolution x y) := by
  unfold Spares
  split <;> infer_instance

end Stroke

namespace Screen

def apply (screen : Screen) : Stroke → Screen
  | .drawing (.draw sprite wraps) => (screen.draw sprite wraps).1
  | .drawing .clear => screen.clear
  | .drawing (.scrollDown rows) => screen.scrollDown rows
  | .drawing (.scrollRight columns) => screen.scrollRight columns
  | .drawing (.scrollLeft columns) => screen.scrollLeft columns
  | .drawing .age => screen.age
  | .drawing (.setFilter filter) => screen.setFilter filter
  | .reshape resolution => screen.setResolution resolution

def applyAll (screen : Screen) (strokes : List Stroke) : Screen :=
  strokes.foldl apply screen

end Screen

/-! ### A pixel -/

/-- A pixel is as it was, or has been switched on, or off with the whole glow of the filter. -/
def Pixel.Switched (filter : Filter) (before after : Pixel) : Prop :=
  after = before ∨ after = ⟨true, 0⟩ ∨ after = ⟨false, filter.delay⟩

namespace Pixel

variable {filter : Filter} {first second third : Pixel}

theorem Switched.refl (filter : Filter) (pixel : Pixel) : Switched filter pixel pixel :=
  .inl rfl

theorem Switched.trans (earlier : Switched filter first second)
    (later : Switched filter second third) : Switched filter first third := by
  rcases later with same | switched
  · rw [same]
    exact earlier
  · exact .inr switched

theorem switched_toggled (filter : Filter) (pixel : Pixel) :
    Switched filter pixel (pixel.toggled filter) := by
  unfold toggled
  split
  · exact .inr (.inr rfl)
  · exact .inr (.inl rfl)

theorem switched_turnOff (filter : Filter) (pixel : Pixel) :
    Switched filter pixel (pixel.turnOff filter) := by
  unfold turnOff
  split
  · exact .inr (.inr rfl)
  · exact .inl rfl

theorem turnOff_of_off (off : first.on = false) : first.turnOff filter = first := by
  rw [turnOff, off, if_neg Bool.false_ne_true]

/-- A pixel that was on and is not has the whole glow. -/
theorem Switched.wentOff (switched : Switched filter first second) (wasOn : first.on = true)
    (isOff : second.on = false) : second = ⟨false, filter.delay⟩ := by
  rcases switched with rfl | rfl | off
  · rw [wasOn] at isOff
    cases isOff
  · cases isOff
  · exact off

end Pixel

namespace Screen

section Toggles

variable (resolution : Resolution) (filter : Filter) (pixels : List (Nat × Nat))
  (inside : ∀ pixel ∈ pixels, pixel.1 < resolution.width ∧ pixel.2 < resolution.height)
  (grid : Grid) (x y : Nat)

include inside

theorem sample_toggleAll_switched :
    Pixel.Switched filter (grid.sample resolution x y)
      ((toggleAll resolution filter pixels grid).1.sample resolution x y) := by
  induction pixels generalizing grid with
  | nil => exact .refl filter _
  | cons head rest ih =>
      obtain ⟨column, row⟩ := inside head List.mem_cons_self
      have toggled := sample_toggle resolution filter grid column row x y
      refine Pixel.Switched.trans ?_ (ih (fun pixel member =>
        inside pixel (List.mem_cons_of_mem _ member)) (toggle resolution filter grid _ _).1)
      rw [toggled]
      split
      · rename_i same
        rw [same.1, same.2]
        exact Pixel.switched_toggled filter _
      · exact .refl filter _

theorem sample_toggleAll_of_not_mem (apart : (x, y) ∉ pixels) :
    (toggleAll resolution filter pixels grid).1.sample resolution x y =
      grid.sample resolution x y := by
  induction pixels generalizing grid with
  | nil => rfl
  | cons head rest ih =>
      obtain ⟨column, row⟩ := inside head List.mem_cons_self
      obtain ⟨other, apartRest⟩ := not_or.mp (mt List.mem_cons.mpr apart)
      refine (ih (fun pixel member => inside pixel (List.mem_cons_of_mem _ member))
        (toggle resolution filter grid _ _).1 apartRest).trans ?_
      rw [sample_toggle resolution filter grid column row, if_neg]
      rintro ⟨sameX, sameY⟩
      exact other (Prod.ext sameX sameY)

end Toggles

section OnePixel

variable {screen : Screen} {x y : Nat} (column : x < screen.resolution.width)
  (row : y < screen.resolution.height)

include column row

/-- A stroke leaves a pixel that it spares as it is while the pixel is off. -/
theorem pixel_apply_of_spares {stroke : Stroke} (spares : stroke.Spares screen.resolution x y)
    (off : (screen.pixel x y).on = false) :
    (screen.apply stroke).resolution = screen.resolution ∧
      (screen.apply stroke).pixel x y = screen.pixel x y := by
  cases stroke with
  | reshape other =>
      have same : other = screen.resolution := spares
      subst same
      exact ⟨rfl, rfl⟩
  | drawing drawing =>
      cases drawing with
      | draw sprite wraps =>
          refine ⟨rfl, sample_toggleAll_of_not_mem screen.resolution screen.filter _
            (fun _ => Sprite.targets_inside) screen.grid x y ?_⟩
          exact mt (covers_of_mem_targets column row) spares
      | clear => exact ⟨rfl, (screen.pixel_clear column row).trans (Pixel.turnOff_of_off off)⟩
      | setFilter filter => exact ⟨rfl, rfl⟩
      | age => exact spares.elim
      | scrollDown rows =>
          have still : rows = 0 := spares
          subst still
          rw [apply, screen.pixel_scrollDown column row 0, scrollDown]
          exact ⟨rfl, if_pos (Nat.zero_le y)⟩
      | scrollRight columns =>
          have still : columns = 0 := spares
          subst still
          rw [apply, screen.pixel_scrollRight column row 0, scrollRight]
          exact ⟨rfl, if_pos (Nat.zero_le x)⟩
      | scrollLeft columns =>
          have still : columns = 0 := spares
          subst still
          rw [apply, screen.pixel_scrollLeft column row 0, scrollLeft]
          exact ⟨rfl, if_pos column⟩

theorem pixel_apply_switched {stroke : Stroke} (drawn : stroke.DrawsOrClears screen.resolution) :
    (screen.apply stroke).resolution = screen.resolution ∧
      (screen.apply stroke).filter = screen.filter ∧
      Pixel.Switched screen.filter (screen.pixel x y) ((screen.apply stroke).pixel x y) := by
  cases stroke with
  | reshape other =>
      have same : other = screen.resolution := drawn
      subst same
      exact ⟨rfl, rfl, .refl _ _⟩
  | drawing drawing =>
      cases drawing with
      | draw sprite wraps =>
          exact ⟨rfl, rfl, sample_toggleAll_switched screen.resolution screen.filter _
            (fun _ => Sprite.targets_inside) screen.grid x y⟩
      | clear =>
          refine ⟨rfl, rfl, ?_⟩
          rw [apply, screen.pixel_clear column row]
          exact Pixel.switched_turnOff screen.filter _
      | _ => exact drawn.elim

theorem pixel_applyAll_of_spares {strokes : List Stroke}
    (spare : ∀ stroke ∈ strokes, stroke.Spares screen.resolution x y)
    (off : (screen.pixel x y).on = false) :
    (screen.applyAll strokes).resolution = screen.resolution ∧
      (screen.applyAll strokes).pixel x y = screen.pixel x y := by
  induction strokes generalizing screen with
  | nil => exact ⟨rfl, rfl⟩
  | cons stroke rest ih =>
      obtain ⟨spares, spareRest⟩ := List.forall_mem_cons.mp spare
      obtain ⟨resolution, pixel⟩ := pixel_apply_of_spares column row spares off
      rw [← resolution] at column row spareRest
      rw [← pixel] at off
      obtain ⟨resolutionThen, pixelThen⟩ := ih column row spareRest off
      exact ⟨resolutionThen.trans resolution, pixelThen.trans pixel⟩

theorem pixel_applyAll_switched {strokes : List Stroke}
    (drawn : ∀ stroke ∈ strokes, stroke.DrawsOrClears screen.resolution) :
    (screen.applyAll strokes).resolution = screen.resolution ∧
      Pixel.Switched screen.filter (screen.pixel x y) ((screen.applyAll strokes).pixel x y) := by
  induction strokes generalizing screen with
  | nil => exact ⟨rfl, .refl _ _⟩
  | cons stroke rest ih =>
      obtain ⟨draws, drawnRest⟩ := List.forall_mem_cons.mp drawn
      obtain ⟨resolution, filter, switched⟩ := pixel_apply_switched column row draws
      rw [← resolution] at column row drawnRest
      obtain ⟨resolutionThen, switchedThen⟩ := ih column row drawnRest
      rw [filter] at switchedThen
      exact ⟨resolutionThen.trans resolution, switched.trans switchedThen⟩

/-- The frame of a screen has its pixels. -/
theorem pixel?_frame : screen.frame.pixel? x y = some (screen.pixel x y) := by
  have inRow : y * screen.resolution.width + x <
      screen.resolution.width * screen.resolution.height := by
    have below := Nat.mul_le_mul_left screen.resolution.width row
    rw [Nat.mul_succ, Nat.mul_comm _ y] at below
    omega
  change (Array.ofFn _)[y * screen.resolution.width + x]? = _
  rw [Array.getElem?_ofFn, dif_pos inRow]
  simp only [Frame.column_of_place column, Frame.row_of_place column]

end OnePixel

/-! ### The cells -/

end Screen

/-- The most refreshes for which one of some filters lets a pixel glow. -/
def largestDelay : List Filter → Nat
  | [] => 0
  | filter :: rest => max filter.delay (largestDelay rest)

theorem delay_le_largestDelay {filter : Filter} {filters : List Filter}
    (member : filter ∈ filters) : filter.delay ≤ largestDelay filters := by
  induction filters with
  | nil => cases member
  | cons first rest ih =>
      rcases List.mem_cons.mp member with rfl | among
      · exact Nat.le_max_left _ _
      · exact Nat.le_trans (ih among) (Nat.le_max_right _ _)

theorem largestDelay_append (filters more : List Filter) :
    largestDelay (filters ++ more) = max (largestDelay filters) (largestDelay more) := by
  induction filters with
  | nil => exact (Nat.zero_max _).symm
  | cons first rest ih => rw [List.cons_append, largestDelay, ih, largestDelay, Nat.max_assoc]

/-- A pixel that is on does not glow, and none glows for longer than a bound. -/
structure Pixel.Within (bound : Nat) (pixel : Pixel) : Prop where
  glow_of_on : pixel.on = true → pixel.glow = 0
  glow_le : pixel.glow ≤ bound

namespace Pixel

variable {bound : Nat} {pixel : Pixel}

theorem within_dark (bound : Nat) : dark.Within bound :=
  ⟨fun _ => rfl, Nat.zero_le bound⟩

theorem within_turnOn (bound : Nat) (pixel : Pixel) : pixel.turnOn.Within bound :=
  ⟨fun _ => rfl, Nat.zero_le bound⟩

theorem Within.mono {more : Nat} (within : pixel.Within bound) (le : bound ≤ more) :
    pixel.Within more :=
  ⟨within.glow_of_on, Nat.le_trans within.glow_le le⟩

theorem Within.turnOff {filter : Filter} (within : pixel.Within bound)
    (small : filter.delay ≤ bound) : (pixel.turnOff filter).Within bound := by
  unfold Pixel.turnOff
  split
  · exact ⟨nofun, small⟩
  · exact within

theorem Within.age (within : pixel.Within bound) : pixel.age.Within bound := by
  refine ⟨fun on => ?_, Nat.le_trans (Nat.sub_le pixel.glow 1) within.glow_le⟩
  have zero : pixel.glow = 0 := within.glow_of_on on
  change pixel.glow - 1 = 0
  rw [zero]

end Pixel

def Grid.Within (bound : Nat) (grid : Grid) : Prop :=
  ∀ column row, (grid.cell column row).Within bound

namespace Grid

variable {bound : Nat} {grid : Grid}

theorem within_of_inside
    (inside : ∀ column row, column < 128 ∧ row < 64 → (grid.cell column row).Within bound) :
    grid.Within bound := by
  intro column row
  by_cases within : column < 128 ∧ row < 64
  · exact inside column row within
  · rw [cell_outside grid within]
    exact Pixel.within_dark bound

theorem within_dark (bound : Nat) : dark.Within bound := by
  intro column row
  rw [cell_dark]
  exact Pixel.within_dark bound

theorem Within.mono {more : Nat} (within : grid.Within bound) (le : bound ≤ more) :
    grid.Within more :=
  fun column row => (within column row).mono le

section Changing

variable {change : Pixel → Pixel}
  (keeps : ∀ pixel : Pixel, pixel.Within bound → (change pixel).Within bound)

include keeps

theorem Within.map (within : grid.Within bound) : (grid.map change).Within bound := by
  apply within_of_inside
  intro column row inside
  rw [cell_map grid change inside]
  exact keeps _ (within column row)

theorem Within.update (within : grid.Within bound) (column row : Nat) :
    (grid.update column row change).Within bound := by
  by_cases inside : column < 128 ∧ row < 64
  · intro otherColumn otherRow
    rw [cell_update grid change inside]
    split
    · exact keeps _ (within column row)
    · exact within otherColumn otherRow
  · rw [Grid.update, dif_neg inside]
    exact within

theorem Within.updateRow (within : grid.Within bound) (column row count : Nat) :
    (grid.updateRow column row change count).Within bound := by
  induction count generalizing grid with
  | zero => exact within
  | succ count ih => exact ih (within.update keeps (column + count) row)

theorem Within.updateBlock (within : grid.Within bound) (column row width count : Nat) :
    (grid.updateBlock column row width change count).Within bound := by
  induction count generalizing grid with
  | zero => exact within
  | succ count ih => exact ih (within.updateRow keeps column (row + count) width)

end Changing

theorem within_ofCells {content : Nat → Nat → Pixel}
    (within : ∀ column row, (content column row).Within bound) :
    (ofCells content).Within bound := by
  apply within_of_inside
  intro column row inside
  rw [cell_ofCells content inside]
  exact within column row

variable (within : grid.Within bound)

include within

theorem Within.shiftDown (rows : Nat) : (grid.shiftDown rows).Within bound := by
  apply within_ofCells
  intro column row
  split
  · exact Pixel.within_dark bound
  · exact within column (row - rows)

theorem Within.shiftRight (columns : Nat) : (grid.shiftRight columns).Within bound := by
  apply within_ofCells
  intro column row
  split
  · exact Pixel.within_dark bound
  · exact within (column - columns) row

theorem Within.shiftLeft (columns : Nat) : (grid.shiftLeft columns).Within bound := by
  apply within_ofCells
  intro column row
  exact within (column + columns) row

end Grid

namespace Screen

theorem within_toggleAll {bound : Nat} {filter : Filter} (small : filter.delay ≤ bound)
    (resolution : Resolution) (pixels : List (Nat × Nat)) {grid : Grid}
    (within : grid.Within bound) :
    (toggleAll resolution filter pixels grid).1.Within bound := by
  induction pixels generalizing grid with
  | nil => exact within
  | cons head rest ih =>
      refine ih (within.updateBlock ?_ _ _ _ _)
      intro pixel pixelWithin
      split
      · exact pixelWithin.turnOff small
      · exact Pixel.within_turnOn bound pixel

/-- The filter is one of some filters, and the cells keep to them: none is on that glows, and none
glows for longer than all of them allow. -/
structure Kept (filters : List Filter) (screen : Screen) : Prop where
  used : screen.filter ∈ filters
  cells : screen.grid.Within (largestDelay filters)

variable {filters : List Filter} {screen : Screen}

theorem kept_blank (filter : Filter) : (blank filter).Kept [filter] :=
  ⟨List.mem_singleton_self filter, Grid.within_dark _⟩

theorem Kept.apply (kept : screen.Kept filters) {stroke : Stroke}
    (sameFilter : stroke.filter? = none) : (screen.apply stroke).Kept filters := by
  obtain ⟨used, cells⟩ := kept
  have small := delay_le_largestDelay used
  cases stroke with
  | reshape other => exact ⟨used, cells⟩
  | drawing drawing =>
      cases drawing with
      | setFilter filter => cases sameFilter
      | draw sprite wraps => exact ⟨used, within_toggleAll small _ _ cells⟩
      | clear => exact ⟨used, cells.map fun _ within => within.turnOff small⟩
      | age => exact ⟨used, cells.map fun _ within => within.age⟩
      | scrollDown rows =>
          rw [Screen.apply, scrollDown]
          exact ⟨used, cells.shiftDown _⟩
      | scrollRight columns =>
          rw [Screen.apply, scrollRight]
          exact ⟨used, cells.shiftRight _⟩
      | scrollLeft columns =>
          rw [Screen.apply, scrollLeft]
          exact ⟨used, cells.shiftLeft _⟩

theorem Kept.setFilter (kept : screen.Kept filters) (filter : Filter) :
    (screen.setFilter filter).Kept (filters ++ [filter]) := by
  refine ⟨List.mem_append_right _ (List.mem_singleton_self filter), kept.cells.mono ?_⟩
  rw [largestDelay_append]
  exact Nat.le_max_left _ _

theorem Kept.applyAll (kept : screen.Kept filters) (strokes : List Stroke) :
    (screen.applyAll strokes).Kept (filters ++ strokes.filterMap Stroke.filter?) := by
  induction strokes generalizing screen filters with
  | nil =>
      rw [List.filterMap_nil, List.append_nil]
      exact kept
  | cons stroke rest ih =>
      cases brought : stroke.filter? with
      | none =>
          rw [List.filterMap_cons_none brought]
          exact ih (kept.apply brought)
      | some filter =>
          have later := ih (kept.setFilter filter)
          rw [List.append_assoc] at later
          rw [List.filterMap_cons_some brought, Stroke.eq_of_filter? brought]
          exact later

/-- A new screen keeps to its filters whatever is done to it. -/
theorem kept_applyAll (filter : Filter) (strokes : List Stroke) :
    ((blank filter).applyAll strokes).Kept (filter :: strokes.filterMap Stroke.filter?) :=
  (kept_blank filter).applyAll strokes

end Screen
end Chip8
