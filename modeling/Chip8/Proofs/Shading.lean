import Chip8.Proofs.Strokes
import Chip8.Terminal.Canvas

set_option autoImplicit false

/-!
The layers into which a picture is sorted by brightness. `sortBy?` sorts the pixels one after the
other, each by a number that nothing keeps below eleven; a screen that has been drawn on with any
filters keeps its glow so short that the number always names a layer (`sortBy?_eq`).

Main statement: `shades_partition`, each lit pixel lies in just the layer of its brightness.
-/

namespace Chip8

theorem largestDelay_le (filters : List Filter) : largestDelay filters ≤ Filter.fadeLength := by
  induction filters with
  | nil => exact Nat.zero_le _
  | cons filter rest ih => exact Nat.max_le.mpr ⟨filter.delay_le, ih⟩

/-- No pixel glows for longer than some filter allows. -/
def Frame.FadesInTime (frame : Frame) : Prop :=
  ∀ pixel ∈ frame.pixels, pixel.glow ≤ Filter.fadeLength

theorem Screen.fadesInTime_frame {filters : List Filter} {screen : Screen}
    (kept : screen.Kept filters) : screen.frame.FadesInTime := by
  intro pixel member
  obtain ⟨index, rfl⟩ := Array.mem_ofFn.mp member
  exact Nat.le_trans (kept.cells _ _).glow_le (largestDelay_le filters)

namespace Terminal

/-- How bright a lit pixel is to be shown: fully if it is on or the filter has no steps, and else
by what is left of its glow. -/
def brightness (filter : Filter) (pixel : Pixel) : Nat :=
  if pixel.isLit then
    if pixel.on ∨ filter ≠ .fade then 10 else pixel.glow
  else 0

/-- The place of a pixel on the canvas, from its position in a picture of a width. -/
def placeOf (width position : Nat) : Int × Int :=
  (((position % width : Nat) : Int), -((position / width : Nat) : Int))

/-- Puts a point behind the others of a level. There is none to put it into past the last one. -/
def put? (lists : List (List (Int × Int))) (level : Nat) (point : Int × Int) :
    Option (List (List (Int × Int))) :=
  if level < lists.length then some (lists.modify level fun points => points ++ [point]) else none

/-- Sorts pixels with their positions into lists by some level; those of level 0 are left out. -/
def sortFrom? (level : Pixel → Nat) (width : Nat) :
    List (Pixel × Nat) → List (List (Int × Int)) → Option (List (List (Int × Int)))
  | [], lists => some lists
  | (pixel, position) :: rest, lists =>
      if 0 < level pixel then
        (put? lists (level pixel) (placeOf width position)).bind (sortFrom? level width rest)
      else sortFrom? level width rest lists

/-- Sorts a picture into eleven lists. -/
def sortBy? (level : Pixel → Nat) (frame : Frame) : Option (List (List (Int × Int))) :=
  sortFrom? level frame.width frame.pixels.toList.zipIdx (List.replicate 11 [])

/-- Further up on the canvas, or further to the left in the same row. -/
def Before (first second : Int × Int) : Prop :=
  second.2 < first.2 ∨ second.2 = first.2 ∧ first.1 < second.1

/-- A point lies within the bounds of a canvas. -/
def InBounds (frame : Frame) (point : Int × Int) : Prop :=
  ((columnBounds frame).1 ≤ point.1 ∧ point.1 ≤ (columnBounds frame).2) ∧
    (rowBounds frame).1 ≤ point.2 ∧ point.2 ≤ (rowBounds frame).2

/-- A lit pixel has its point once in the list of its brightness and in no other one; a dark pixel
has none. -/
structure Placed (frame : Frame) (x y : Nat) (pixel : Pixel) : Prop where
  once : pixel.isLit = true → ∃ level : Shade, level.val = brightness frame.filter pixel ∧
    ((shades frame).get level).countP (fun point => point = ((x : Int), -(y : Int))) = 1
  nowhere : ∀ level : Shade, ¬(pixel.isLit = true ∧ level.val = brightness frame.filter pixel) →
    ((x : Int), -(y : Int)) ∉ (shades frame).get level

/-- The lists of a picture hold its lit pixels by their brightness. -/
structure Partitions (frame : Frame) : Prop where
  /-- No pixel is sorted into a list that there is not, neither by its shade nor by a brightness
  that is not cut off at the highest one. -/
  sorted : sortBy? (fun pixel => (shade frame.filter pixel).val) frame =
    some (shades frame).toList
  sortedUncut : sortBy? (brightness frame.filter) frame = some (shades frame).toList
  dark : (shades frame).get 0 = []
  placed : ∀ x y, x < frame.width → y < frame.height →
    ∃ pixel, frame.pixel? x y = some pixel ∧ Placed frame x y pixel
  ordered : ∀ level : Shade, ((shades frame).get level).Pairwise Before
  inside : ∀ level : Shade, ∀ point ∈ (shades frame).get level, InBounds frame point

/-! ### Brightness -/

theorem brightness_pos_iff (filter : Filter) (pixel : Pixel) :
    0 < brightness filter pixel ↔ pixel.isLit = true := by
  rcases pixel with ⟨on, glow⟩
  cases on <;> cases filter <;> simp [brightness, Pixel.isLit, Nat.pos_iff_ne_zero]

theorem val_shade {pixel : Pixel} (filter : Filter) (inTime : pixel.glow ≤ Filter.fadeLength) :
    (shade filter pixel).val = brightness filter pixel := by
  rcases pixel with ⟨on, glow⟩
  have cut : min glow 10 = glow := Nat.min_eq_left inTime
  cases on with
  | true => rfl
  | false =>
      by_cases dark : glow = 0
      · cases filter <;> simp [shade, brightness, Pixel.isLit, dark]
      · have lit : Pixel.isLit ⟨false, glow⟩ = true := bne_iff_ne.mpr dark
        have told : brightness filter ⟨false, glow⟩ = if filter ≠ .fade then 10 else glow := by
          simp only [brightness, lit, if_true, Bool.false_eq_true, false_or]
        rw [shade, if_neg Bool.false_ne_true, told]
        by_cases fades : filter = .fade
        · rw [if_pos fades, if_neg (not_not_intro fades)]
          exact cut
        · rw [if_neg fades, if_pos lit, if_pos fades]
          rfl

/-! ### Sorting -/

/-- The points that sorting puts into the list of a level. -/
def pointsAt (level : Pixel → Nat) (width : Nat) (items : List (Pixel × Nat)) (wanted : Nat) :
    List (Int × Int) :=
  (items.filter fun item => decide (0 < wanted) && level item.1 == wanted).map fun item =>
    placeOf width item.2

theorem pointsAt_cons (level : Pixel → Nat) (width : Nat) (pixel : Pixel) (position : Nat)
    (rest : List (Pixel × Nat)) (wanted : Nat) :
    pointsAt level width ((pixel, position) :: rest) wanted =
      (if 0 < wanted ∧ level pixel = wanted then [placeOf width position] else []) ++
        pointsAt level width rest wanted := by
  rw [pointsAt, List.filter_cons]
  by_cases here : 0 < wanted ∧ level pixel = wanted
  · simp [here, pointsAt]
  · rw [if_neg here, if_neg (by simpa using here)]
    rfl

theorem sortFrom?_eq (level : Pixel → Nat) (width : Nat) (items : List (Pixel × Nat))
    (lists : List (List (Int × Int))) (bounded : ∀ item ∈ items, level item.1 < lists.length) :
    ∃ sorted, sortFrom? level width items lists = some sorted ∧
      ∀ wanted : Nat, sorted[wanted]? =
        lists[wanted]?.map fun points => points ++ pointsAt level width items wanted := by
  induction items generalizing lists with
  | nil =>
      refine ⟨lists, rfl, ?_⟩
      intro wanted
      simp [pointsAt]
  | cons item rest ih =>
      rcases item with ⟨pixel, position⟩
      obtain ⟨small, boundedRest⟩ := List.forall_mem_cons.mp bounded
      by_cases lit : 0 < level pixel
      · have put : put? lists (level pixel) (placeOf width position) =
            some (lists.modify (level pixel) fun points => points ++ [placeOf width position]) :=
          if_pos small
        obtain ⟨sorted, sorts, places⟩ := ih
          (lists.modify (level pixel) fun points => points ++ [placeOf width position])
          (by simpa using boundedRest)
        refine ⟨sorted, ?_, ?_⟩
        · rw [sortFrom?, if_pos lit, put]
          exact sorts
        · intro wanted
          rw [places, List.getElem?_modify, pointsAt_cons]
          by_cases same : level pixel = wanted
          · subst same
            cases lists[level pixel]? <;> simp [lit]
          · cases lists[wanted]? <;> simp [same]
      · obtain ⟨sorted, sorts, places⟩ := ih lists boundedRest
        refine ⟨sorted, ?_, ?_⟩
        · rw [sortFrom?, if_neg lit]
          exact sorts
        · intro wanted
          have apart : ¬(0 < wanted ∧ level pixel = wanted) := by omega
          rw [places, pointsAt_cons, if_neg apart]
          rfl

theorem get_shades (frame : Frame) (level : Shade) :
    (shades frame).get level = pointsOf frame level := by
  rw [shades]
  exact Vector.getElem_ofFn level.isLt

/-- Sorting by the shades gives the lists of the canvas, however the shades are reckoned. -/
theorem sortBy?_eq {frame : Frame} {level : Pixel → Nat}
    (same : ∀ pixel ∈ frame.pixels, level pixel = (shade frame.filter pixel).val) :
    sortBy? level frame = some (shades frame).toList := by
  have sameAt : ∀ item ∈ frame.pixels.toList.zipIdx,
      level item.1 = (shade frame.filter item.1).val := by
    intro item member
    have found := List.mem_zipIdx_iff_getElem?.mp member
    exact same item.1 (Array.mem_toList_iff.mp (List.mem_of_getElem? found))
  obtain ⟨sorted, sorts, places⟩ := sortFrom?_eq level frame.width frame.pixels.toList.zipIdx
    (List.replicate 11 []) (by
      intro item member
      rw [sameAt item member, List.length_replicate]
      exact (shade frame.filter item.1).isLt)
  rw [sortBy?, sorts]
  refine congrArg some (List.ext_getElem? fun wanted => ?_)
  rw [places, shades, Vector.toList_ofFn, List.getElem?_ofFn, List.getElem?_replicate]
  by_cases inside : wanted < 11
  · rw [if_pos inside, dif_pos inside, Option.map_some, List.nil_append, pointsAt, pointsOf]
    refine congrArg some (congrArg (List.map _) (List.filter_congr fun item member => ?_))
    rw [sameAt item member, Bool.eq_iff_iff]
    simp [Fin.ext_iff]
  · rw [if_neg inside, dif_neg inside]
    rfl

/-! ### Places -/

theorem before_placeOf (width : Nat) {first second : Nat} (less : first < second) :
    Before (placeOf width first) (placeOf width second) := by
  have rows : first / width ≤ second / width := Nat.div_le_div_right (Nat.le_of_lt less)
  have wholeFirst := Nat.div_add_mod first width
  have wholeSecond := Nat.div_add_mod second width
  rcases Nat.lt_or_eq_of_le rows with above | same
  · have higher : -((second / width : Nat) : Int) < -((first / width : Nat) : Int) := by omega
    exact .inl higher
  · rw [same] at wholeFirst
    have further : first % width < second % width := by omega
    exact .inr ⟨congrArg (fun row : Nat => -(row : Int)) same.symm, Int.ofNat_lt.mpr further⟩

theorem not_before_self (point : Int × Int) : ¬Before point point := by
  unfold Before
  omega

theorem pairwise_pointsOf (frame : Frame) (level : Shade) :
    (pointsOf frame level).Pairwise Before := by
  have positions : frame.pixels.toList.zipIdx.Pairwise fun first second =>
      first.2 < second.2 := by
    rw [← List.pairwise_map, List.zipIdx_map_snd]
    exact List.pairwise_lt_range' 1
  exact (positions.filter _).map _ fun _ _ less => before_placeOf frame.width less

theorem nodup_pointsOf (frame : Frame) (level : Shade) : (pointsOf frame level).Nodup := by
  refine (pairwise_pointsOf frame level).imp ?_
  intro first second before same
  rw [same] at before
  exact not_before_self second before

theorem mem_pointsOf_iff {frame : Frame} {level : Shade} {point : Int × Int} :
    point ∈ pointsOf frame level ↔
      ∃ pixel position, frame.pixels[position]? = some pixel ∧ 0 < level.val ∧
        shade frame.filter pixel = level ∧ placeOf frame.width position = point := by
  unfold pointsOf
  simp only [List.mem_map, List.mem_filter, Prod.exists, List.mem_zipIdx_iff_getElem?,
    Array.getElem?_toList, Bool.and_eq_true, decide_eq_true_iff, beq_iff_eq, and_assoc]
  rfl

theorem placeOf_eq_iff {width x : Nat} (column : x < width) (y position : Nat) :
    placeOf width position = ((x : Int), -(y : Int)) ↔ position = y * width + x := by
  have whole := Nat.div_add_mod position width
  rw [placeOf, Prod.mk.injEq]
  constructor
  · rintro ⟨across, down⟩
    have row : position / width = y := by omega
    have place : position % width = x := by omega
    rw [← whole, row, place, Nat.mul_comm]
  · rintro rfl
    rw [Frame.row_of_place column, Frame.column_of_place column]
    exact ⟨rfl, rfl⟩

/-- The point of a pixel is in a list just if the pixel has its shade. -/
theorem point_mem_pointsOf_iff {frame : Frame} {x y : Nat} {pixel : Pixel}
    (column : x < frame.width) (shown : frame.pixel? x y = some pixel) (level : Shade) :
    ((x : Int), -(y : Int)) ∈ pointsOf frame level ↔
      0 < level.val ∧ shade frame.filter pixel = level := by
  rw [mem_pointsOf_iff]
  constructor
  · rintro ⟨other, position, found, lit, bright, place⟩
    rw [(placeOf_eq_iff column y position).mp place] at found
    rw [Frame.pixel?, found] at shown
    cases shown
    exact ⟨lit, bright⟩
  · rintro ⟨lit, bright⟩
    exact ⟨pixel, _, shown, lit, bright, (placeOf_eq_iff column y _).mpr rfl⟩

theorem inBounds_of_mem {frame : Frame} {level : Shade} {point : Int × Int}
    (member : point ∈ pointsOf frame level) : InBounds frame point := by
  obtain ⟨pixel, position, found, _, _, rfl⟩ := mem_pointsOf_iff.mp member
  obtain ⟨within, _⟩ := Array.getElem?_eq_some_iff.mp found
  rw [frame.size_eq] at within
  have across : position % frame.width < frame.width := Nat.mod_lt _ frame.resolution.width_pos
  have down : position / frame.width < frame.height := Nat.div_lt_of_lt_mul within
  simp only [InBounds, columnBounds, rowBounds, placeOf]
  generalize position % frame.width = column at across ⊢
  generalize position / frame.width = row at down ⊢
  omega

/-! ### Pictures -/

theorem placed_of_fadesInTime {frame : Frame} (inTime : frame.FadesInTime) {x y : Nat}
    (column : x < frame.width) {pixel : Pixel} (shown : frame.pixel? x y = some pixel) :
    Placed frame x y pixel := by
  have bright : (shade frame.filter pixel).val = brightness frame.filter pixel :=
    val_shade frame.filter (inTime pixel (Array.mem_of_getElem? shown))
  have lit := brightness_pos_iff frame.filter pixel
  constructor
  case once =>
    intro isLit
    refine ⟨shade frame.filter pixel, bright, ?_⟩
    rw [get_shades]
    have member : ((x : Int), -(y : Int)) ∈ pointsOf frame (shade frame.filter pixel) := by
      rw [point_mem_pointsOf_iff column shown, bright]
      exact ⟨lit.mpr isLit, rfl⟩
    rw [← List.count_eq_one_of_mem (nodup_pointsOf _ _) member, List.count]
    exact List.countP_congr fun point _ => by simp
  case nowhere =>
    intro level apart member
    rw [get_shades, point_mem_pointsOf_iff column shown] at member
    obtain ⟨positive, rfl⟩ := member
    rw [bright] at positive
    exact apart ⟨lit.mp positive, bright⟩

/-- The lists of a canvas partition what is lit. In every picture of a screen, whatever strokes it
has had and whatever filters they brought, sorting stays inside the eleven lists, and a pixel has
its point just once, in the list of its brightness, if it is lit, and in no list else. -/
theorem shades_partition (filter : Filter) (strokes : List Stroke) :
    Partitions ((Screen.blank filter).applyAll strokes).frame := by
  generalize framed : ((Screen.blank filter).applyAll strokes).frame = frame
  have inTime : frame.FadesInTime := by
    rw [← framed]
    exact Screen.fadesInTime_frame (Screen.kept_applyAll filter strokes)
  constructor
  case sorted => exact sortBy?_eq fun _ _ => rfl
  case sortedUncut =>
    exact sortBy?_eq fun pixel member => (val_shade frame.filter (inTime pixel member)).symm
  case dark =>
    refine List.eq_nil_iff_forall_not_mem.mpr fun point member => ?_
    obtain ⟨_, _, _, positive, _⟩ := mem_pointsOf_iff.mp ((get_shades frame 0) ▸ member)
    exact absurd positive (Nat.lt_irrefl 0)
  case placed =>
    intro x y column row
    rw [← framed] at column row
    have shown := Screen.pixel?_frame column row
    rw [framed] at column shown
    exact ⟨_, shown, placed_of_fadesInTime inTime column shown⟩
  case ordered =>
    intro level
    rw [get_shades]
    exact pairwise_pointsOf frame level
  case inside =>
    intro level point member
    rw [get_shades] at member
    exact inBounds_of_mem member

end Terminal
end Chip8
