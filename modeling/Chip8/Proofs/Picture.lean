import Chip8.Proofs.Toggling

set_option autoImplicit false

/-!
The screen without its cells: a grid with one pixel for each logical pixel, on which drawing,
clearing, scrolling and ageing are said pixel by pixel (`Picture`). No blocks, no order of drawing
and no edge of a grid of cells occur in it.

Main statement: at every resolution, from every grid of cells, the answers and the frames of a
screen are those of the picture that its upper left cells make.
-/

namespace Chip8

inductive Drawing where
  | draw (sprite : Sprite) (wraps : Bool)
  | clear
  | scrollDown (rows : Nat)
  | scrollRight (columns : Nat)
  | scrollLeft (columns : Nat)
  | age
  | setFilter (filter : Filter)

def Sprite.isSet (sprite : Sprite) (row column : Nat) : Bool :=
  (sprite.rows[row]?.getD 0).toNat.testBit (15 - column)

/-- Whether a dot of a sprite falls on a pixel of a screen of a width and a height. -/
def Sprite.Covers (sprite : Sprite) (width height : Nat) (wraps : Bool) (x y : Nat) : Prop :=
  ∃ row < sprite.rows.length, ∃ column < sprite.width, sprite.isSet row column = true ∧
    let across := sprite.x % width + column
    let down := sprite.y % height + row
    if wraps then x = across % width ∧ y = down % height else x = across ∧ y = down

instance (sprite : Sprite) (width height : Nat) (wraps : Bool) (x y : Nat) :
    Decidable (sprite.Covers width height wraps x y) := by
  unfold Sprite.Covers
  infer_instance

/-- One pixel for each logical pixel. Only those inside the resolution belong to the picture. -/
structure Picture where
  resolution : Resolution
  filter : Filter
  pixel : Nat → Nat → Pixel

namespace Picture

def width (picture : Picture) : Nat := picture.resolution.width

def height (picture : Picture) : Nat := picture.resolution.height

def draw (picture : Picture) (sprite : Sprite) (wraps : Bool) : Picture × Bool :=
  let covered := sprite.Covers picture.width picture.height wraps
  ({ picture with
      pixel := fun x y =>
        if covered x y then
          if (picture.pixel x y).on then ⟨false, picture.filter.delay⟩ else ⟨true, 0⟩
        else picture.pixel x y },
    decide (∃ x < picture.width, ∃ y < picture.height, covered x y ∧ (picture.pixel x y).on = true))

def clear (picture : Picture) : Picture :=
  { picture with
    pixel := fun x y =>
      if (picture.pixel x y).on then ⟨false, picture.filter.delay⟩ else picture.pixel x y }

def scrollDown (picture : Picture) (rows : Nat) : Picture :=
  { picture with
    pixel := fun x y => if rows ≤ y then picture.pixel x (y - rows) else Pixel.dark }

def scrollRight (picture : Picture) (columns : Nat) : Picture :=
  { picture with
    pixel := fun x y => if columns ≤ x then picture.pixel (x - columns) y else Pixel.dark }

def scrollLeft (picture : Picture) (columns : Nat) : Picture :=
  { picture with
    pixel := fun x y =>
      if x + columns < picture.width then picture.pixel (x + columns) y else Pixel.dark }

def age (picture : Picture) : Picture :=
  { picture with
    pixel := fun x y => ⟨(picture.pixel x y).on, (picture.pixel x y).glow - 1⟩ }

def frame (picture : Picture) : Frame where
  resolution := picture.resolution
  filter := picture.filter
  pixels := Array.ofFn (n := picture.resolution.width * picture.resolution.height) fun index =>
    picture.pixel (index.val % picture.resolution.width) (index.val / picture.resolution.width)
  size_eq := Array.size_ofFn

def carryOut (picture : Picture) : Drawing → Picture × Option Bool
  | .draw sprite wraps => ((picture.draw sprite wraps).1, some (picture.draw sprite wraps).2)
  | .clear => (picture.clear, none)
  | .scrollDown rows => (picture.scrollDown rows, none)
  | .scrollRight columns => (picture.scrollRight columns, none)
  | .scrollLeft columns => (picture.scrollLeft columns, none)
  | .age => (picture.age, none)
  | .setFilter filter => ({ picture with filter := filter }, none)

def watch (picture : Picture) : List Drawing → List (Option Bool × Frame)
  | [] => []
  | drawing :: later =>
      ((picture.carryOut drawing).2, (picture.carryOut drawing).1.frame) ::
        (picture.carryOut drawing).1.watch later

end Picture

namespace Drawing

/-- A sprite has at most sixteen rows and columns, and the cells of a scroll can be counted. -/
def Fits (resolution : Resolution) : Drawing → Prop
  | .draw sprite _ => sprite.rows.length ≤ 16 ∧ sprite.width ≤ 16
  | .scrollDown rows => rows * resolution.cellsDown ≤ Screen.longestScroll
  | .scrollRight columns => columns * resolution.cellsAcross ≤ Screen.longestScroll
  | .scrollLeft columns => columns * resolution.cellsAcross ≤ Screen.longestScroll
  | .clear | .age | .setFilter _ => True

instance (resolution : Resolution) (drawing : Drawing) : Decidable (drawing.Fits resolution) := by
  cases drawing <;> unfold Fits <;> infer_instance

end Drawing

namespace Screen

def carryOut? (screen : Screen) : Drawing → Option (Screen × Option Bool)
  | .draw sprite wraps =>
      match screen.tryDraw sprite wraps with
      | (drawn, some collided) => some (drawn, some collided)
      | (_, none) => none
  | .clear => some (screen.clear, none)
  | .scrollDown rows => (screen.scrollDown? rows).map (·, none)
  | .scrollRight columns => (screen.scrollRight? columns).map (·, none)
  | .scrollLeft columns => (screen.scrollLeft? columns).map (·, none)
  | .age => some (screen.age, none)
  | .setFilter filter => some (screen.setFilter filter, none)

def watch? (screen : Screen) : List Drawing → Option (List (Option Bool × Frame))
  | [] => some []
  | drawing :: later =>
      match screen.carryOut? drawing with
      | none => none
      | some (next, answer) => (next.watch? later).map ((answer, next.frame) :: ·)

def picture (screen : Screen) : Picture where
  resolution := screen.resolution
  filter := screen.filter
  pixel := screen.pixel

/-- The screen looks like a picture: inside the resolution they have the same pixels. -/
structure LooksLike (screen : Screen) (picture : Picture) : Prop where
  resolution : screen.resolution = picture.resolution
  filter : screen.filter = picture.filter
  pixel : ∀ x y, x < picture.width → y < picture.height → screen.pixel x y = picture.pixel x y

theorem looksLike_picture (screen : Screen) : screen.LooksLike screen.picture :=
  ⟨rfl, rfl, fun _ _ _ _ => rfl⟩

theorem LooksLike.frame {screen : Screen} {picture : Picture} (like : screen.LooksLike picture) :
    screen.frame = picture.frame := by
  rcases picture with ⟨resolution, filter, pixel⟩
  obtain ⟨rfl, rfl, same⟩ := like
  have pixels : ∀ index : Fin (screen.resolution.width * screen.resolution.height),
      screen.pixel (index.val % screen.resolution.width) (index.val / screen.resolution.width) =
        pixel (index.val % screen.resolution.width) (index.val / screen.resolution.width) := by
    intro index
    apply same
    · exact Nat.mod_lt _ screen.resolution.width_pos
    · exact Nat.div_lt_of_lt_mul index.isLt
  refine Frame.mk.injEq .. |>.mpr ⟨rfl, rfl, ?_⟩
  exact congrArg Array.ofFn (funext pixels)

/-! ### One drawing -/

private theorem target?_eq_some_iff {sprite : Sprite} {resolution : Resolution} {wraps : Bool}
    {dotColumn dotRow x y : Nat} (column : x < resolution.width) (row : y < resolution.height) :
    sprite.target? resolution wraps (dotColumn, dotRow) = some (x, y) ↔
      if wraps then
        x = (sprite.x % resolution.width + dotColumn) % resolution.width ∧
          y = (sprite.y % resolution.height + dotRow) % resolution.height
      else
        x = sprite.x % resolution.width + dotColumn ∧
          y = sprite.y % resolution.height + dotRow := by
  unfold Sprite.target?
  cases wraps with
  | true =>
      simp only [if_true, Option.some.injEq, Prod.mk.injEq]
      rw [eq_comm, @eq_comm _ _ y]
  | false =>
      simp only [Bool.false_eq_true, if_false, Option.ite_none_right_eq_some,
        Option.some.injEq, Prod.mk.injEq]
      constructor
      · rintro ⟨_, rfl, rfl⟩
        exact ⟨rfl, rfl⟩
      · rintro ⟨rfl, rfl⟩
        exact ⟨⟨column, row⟩, rfl, rfl⟩

/-- The pixels that drawing comes to are covered, also those of a sprite that is too wide. -/
theorem covers_of_mem_targets {sprite : Sprite} {resolution : Resolution} {wraps : Bool} {x y : Nat}
    (column : x < resolution.width) (row : y < resolution.height)
    (member : (x, y) ∈ sprite.targets resolution wraps) :
    sprite.Covers resolution.width resolution.height wraps x y := by
  rw [Sprite.targets, List.mem_filterMap] at member
  obtain ⟨⟨dotColumn, dotRow⟩, among, found⟩ := member
  obtain ⟨bits, position, within, has⟩ := (sprite.mem_dots_iff dotColumn dotRow).mp among
  obtain ⟨inRows, _⟩ := List.getElem?_eq_some_iff.mp position
  refine ⟨dotRow, inRows, dotColumn, within, ?_, (target?_eq_some_iff column row).mp found⟩
  rw [Sprite.isSet, position]
  simp only [Sprite.hasDot, Bool.and_eq_true] at has
  exact has.2

theorem mem_targets_iff {sprite : Sprite} (narrow : sprite.width ≤ 16) {resolution : Resolution}
    {wraps : Bool} {x y : Nat} (column : x < resolution.width) (row : y < resolution.height) :
    (x, y) ∈ sprite.targets resolution wraps ↔
      sprite.Covers resolution.width resolution.height wraps x y := by
  constructor
  · exact covers_of_mem_targets column row
  · rw [Sprite.targets, List.mem_filterMap]
    rintro ⟨dotRow, inRows, dotColumn, within, set, place⟩
    refine ⟨(dotColumn, dotRow), (sprite.mem_dots_iff dotColumn dotRow).mpr
      ⟨sprite.rows[dotRow], List.getElem?_eq_getElem inRows, within, ?_⟩,
      (target?_eq_some_iff column row).mpr place⟩
    rw [Sprite.isSet, List.getElem?_eq_getElem inRows] at set
    simp only [Sprite.hasDot, Bool.and_eq_true, decide_eq_true_eq]
    exact ⟨by omega, set⟩

theorem LooksLike.draw {screen : Screen} {picture : Picture} (like : screen.LooksLike picture)
    {sprite : Sprite} (short : sprite.rows.length ≤ 16) (narrow : sprite.width ≤ 16)
    (wraps : Bool) :
    (screen.draw sprite wraps).1.LooksLike (picture.draw sprite wraps).1 ∧
      (screen.draw sprite wraps).2 = (picture.draw sprite wraps).2 := by
  rcases picture with ⟨resolution, filter, pixel⟩
  obtain ⟨rfl, rfl, same⟩ := like
  have distinct := Sprite.nodup_targets short screen.resolution wraps
  have inside : ∀ target ∈ sprite.targets screen.resolution wraps,
      target.1 < screen.resolution.width ∧ target.2 < screen.resolution.height :=
    fun target member => Sprite.targets_inside member
  constructor
  · refine ⟨rfl, rfl, ?_⟩
    intro x y column row
    have covers : (x, y) ∈ sprite.targets screen.resolution wraps ↔
        sprite.Covers screen.resolution.width screen.resolution.height wraps x y :=
      mem_targets_iff narrow column row
    refine (sample_toggleAll _ screen.filter _ distinct inside screen.grid x y).trans ?_
    have sampled : screen.grid.sample screen.resolution x y = pixel x y := same x y column row
    simp only [covers, sampled]
    rfl
  · apply Bool.eq_iff_iff.mpr
    refine (toggleAll_collides _ screen.filter _ distinct inside screen.grid).trans ?_
    refine Iff.trans ?_ decide_eq_true_iff.symm
    constructor
    · rintro ⟨⟨x, y⟩, member, on⟩
      obtain ⟨column, row⟩ := inside (x, y) member
      refine ⟨x, column, y, row, (mem_targets_iff narrow column row).mp member, ?_⟩
      rw [← same x y column row]
      exact on
    · rintro ⟨x, column, y, row, covered, on⟩
      refine ⟨(x, y), (mem_targets_iff narrow column row).mpr covered, ?_⟩
      rw [← same x y column row] at on
      exact on

theorem LooksLike.clear {screen : Screen} {picture : Picture} (like : screen.LooksLike picture) :
    screen.clear.LooksLike picture.clear := by
  rcases picture with ⟨resolution, filter, pixel⟩
  obtain ⟨rfl, rfl, same⟩ := like
  refine ⟨rfl, rfl, ?_⟩
  intro x y column row
  refine (screen.pixel_clear column row).trans ?_
  exact congrArg (Pixel.turnOff screen.filter) (same x y column row)

theorem LooksLike.age {screen : Screen} {picture : Picture} (like : screen.LooksLike picture) :
    screen.age.LooksLike picture.age := by
  rcases picture with ⟨resolution, filter, pixel⟩
  obtain ⟨rfl, rfl, same⟩ := like
  refine ⟨rfl, rfl, ?_⟩
  intro x y column row
  refine (screen.pixel_age column row).trans ?_
  exact congrArg Pixel.age (same x y column row)

theorem LooksLike.scrollDown {screen : Screen} {picture : Picture}
    (like : screen.LooksLike picture) (rows : Nat) :
    (screen.scrollDown rows).LooksLike (picture.scrollDown rows) := by
  rcases picture with ⟨resolution, filter, pixel⟩
  obtain ⟨rfl, rfl, same⟩ := like
  refine ⟨rfl, rfl, ?_⟩
  intro x y column row
  refine (screen.pixel_scrollDown column row rows).trans ?_
  apply ite_congr rfl
  · intro _
    exact same x (y - rows) column (Nat.lt_of_le_of_lt (Nat.sub_le y rows) row)
  · intro _
    rfl

theorem LooksLike.scrollRight {screen : Screen} {picture : Picture}
    (like : screen.LooksLike picture) (columns : Nat) :
    (screen.scrollRight columns).LooksLike (picture.scrollRight columns) := by
  rcases picture with ⟨resolution, filter, pixel⟩
  obtain ⟨rfl, rfl, same⟩ := like
  refine ⟨rfl, rfl, ?_⟩
  intro x y column row
  refine (screen.pixel_scrollRight column row columns).trans ?_
  apply ite_congr rfl
  · intro _
    exact same (x - columns) y (Nat.lt_of_le_of_lt (Nat.sub_le x columns) column) row
  · intro _
    rfl

theorem LooksLike.scrollLeft {screen : Screen} {picture : Picture}
    (like : screen.LooksLike picture) (columns : Nat) :
    (screen.scrollLeft columns).LooksLike (picture.scrollLeft columns) := by
  rcases picture with ⟨resolution, filter, pixel⟩
  obtain ⟨rfl, rfl, same⟩ := like
  refine ⟨rfl, rfl, ?_⟩
  intro x y column row
  refine (screen.pixel_scrollLeft column row columns).trans ?_
  apply ite_congr rfl
  · intro inside
    exact same (x + columns) y inside row
  · intro _
    rfl

theorem LooksLike.carryOut {screen : Screen} {picture : Picture} (like : screen.LooksLike picture)
    {drawing : Drawing} (fits : drawing.Fits screen.resolution) :
    ∃ next, screen.carryOut? drawing = some (next, (picture.carryOut drawing).2) ∧
      next.LooksLike (picture.carryOut drawing).1 := by
  cases drawing with
  | draw sprite wraps =>
      obtain ⟨drawn, collided⟩ := like.draw fits.1 fits.2 wraps
      refine ⟨(screen.draw sprite wraps).1, ?_, drawn⟩
      rw [carryOut?, tryDraw_eq screen fits.2, collided]
      rfl
  | clear => exact ⟨_, rfl, like.clear⟩
  | age => exact ⟨_, rfl, like.age⟩
  | setFilter filter => exact ⟨_, rfl, like.resolution, rfl, like.pixel⟩
  | scrollDown rows =>
      refine ⟨screen.scrollDown rows, ?_, like.scrollDown rows⟩
      have counted : rows * screen.resolution.cellsDown ≤ longestScroll := fits
      rw [carryOut?, scrollDown?, if_pos counted]
      rfl
  | scrollRight columns =>
      refine ⟨screen.scrollRight columns, ?_, like.scrollRight columns⟩
      have counted : columns * screen.resolution.cellsAcross ≤ longestScroll := fits
      rw [carryOut?, scrollRight?, if_pos counted]
      rfl
  | scrollLeft columns =>
      refine ⟨screen.scrollLeft columns, ?_, like.scrollLeft columns⟩
      have counted : columns * screen.resolution.cellsAcross ≤ longestScroll := fits
      rw [carryOut?, scrollLeft?, if_pos counted]
      rfl

theorem resolution_carryOut (picture : Picture) (drawing : Drawing) :
    (picture.carryOut drawing).1.resolution = picture.resolution := by
  cases drawing <;> rfl

theorem LooksLike.watch {screen : Screen} {picture : Picture} (like : screen.LooksLike picture)
    (drawings : List Drawing) (fits : ∀ drawing ∈ drawings, drawing.Fits screen.resolution) :
    screen.watch? drawings = some (picture.watch drawings) := by
  induction drawings generalizing screen picture with
  | nil => rfl
  | cons drawing later ih =>
      obtain ⟨next, carried, nextLike⟩ := like.carryOut (fits drawing List.mem_cons_self)
      have sameResolution : next.resolution = screen.resolution := by
        rw [nextLike.resolution, resolution_carryOut, like.resolution]
      have fitsLater : ∀ other ∈ later, other.Fits next.resolution := by
        intro other member
        rw [sameResolution]
        exact fits other (List.mem_cons_of_mem _ member)
      rw [watch?, carried]
      simp only
      rw [ih nextLike fitsLater, nextLike.frame]
      rfl

/-- Observed through answers and frames, a screen is the picture that it shows. -/
theorem watch?_eq (screen : Screen) (drawings : List Drawing)
    (fits : ∀ drawing ∈ drawings, drawing.Fits screen.resolution) :
    screen.frame = screen.picture.frame ∧
      screen.watch? drawings = some (screen.picture.watch drawings) :=
  ⟨rfl, screen.looksLike_picture.watch drawings fits⟩

def unevenScreen : Screen :=
  ⟨Grid.ofCells fun column row => ⟨(column + row) % 3 == 0, column % 4⟩, .low, .fade⟩

/-- Two sprites over the lower right corner, one clipped and one wrapped, among other drawings. -/
def cornerDrawings : List Drawing :=
  [.draw ⟨62, 31, [0xFF00, 0x8100], 8⟩ false, .age, .scrollRight 3, .setFilter .none,
    .draw ⟨62, 31, [0xFF00, 0x8100], 8⟩ true, .scrollDown 40, .clear]

theorem watch?_eq_cornerDrawings :
    (∀ drawing ∈ cornerDrawings, drawing.Fits unevenScreen.resolution) ∧
      unevenScreen.watch? cornerDrawings =
        some (unevenScreen.picture.watch cornerDrawings) :=
  ⟨by decide, (watch?_eq unevenScreen cornerDrawings (by decide)).2⟩

end Screen
end Chip8
