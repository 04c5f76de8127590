import Chip8.Proofs.Filters
import Chip8.Proofs.Picture

set_option autoImplicit false

/-!
Sprites drawn over one another. Drawing switches blocks of cells on and off and lets those that go
off glow, but whether a pixel is on after any number of draws depends only on how many of them
cover it (`on_stampAll`), whatever the cells of the blocks were. So the order of the draws does not
matter to what is on (`lights_stampAll_of_perm`).

Main statement: two draws leave the same in either order, the same draw made twice leaves every
pixel as it was, and the second of them collides where the first one found a pixel off.
-/

namespace Chip8

/-- A sprite of at most sixteen rows and columns, and whether what stands over the edge comes in
on the other side. -/
structure Stamp where
  sprite : Sprite
  wraps : Bool
  short : sprite.rows.length ≤ 16
  narrow : sprite.width ≤ 16

def Stamp.Covers (stamp : Stamp) (resolution : Resolution) (x y : Nat) : Prop :=
  stamp.sprite.Covers resolution.width resolution.height stamp.wraps x y

instance (stamp : Stamp) (resolution : Resolution) (x y : Nat) :
    Decidable (stamp.Covers resolution x y) := by
  unfold Stamp.Covers
  infer_instance

theorem Pixel.on_toggled (filter : Filter) (pixel : Pixel) :
    (pixel.toggled filter).on = !pixel.on := by
  rcases pixel with ⟨on, glow⟩
  cases on <;> rfl

namespace Screen

def stamp (screen : Screen) (stamp : Stamp) : Screen × Option Bool :=
  screen.tryDraw stamp.sprite stamp.wraps

/-- Draws stamps one after the other, and gives what every draw has told. -/
def stampAll (screen : Screen) : List Stamp → Screen × List (Option Bool)
  | [] => (screen, [])
  | first :: later =>
      let (drawn, told) := screen.stamp first
      let (last, toldLater) := drawn.stampAll later
      (last, told :: toldLater)

/-! ### One draw -/

section OneDraw

variable (screen : Screen) (stamp : Stamp)

theorem stamp_eq :
    screen.stamp stamp =
      ((screen.draw stamp.sprite stamp.wraps).1,
        some (screen.draw stamp.sprite stamp.wraps).2) :=
  screen.tryDraw_eq stamp.narrow stamp.wraps

theorem resolution_stamp : (screen.stamp stamp).1.resolution = screen.resolution := by
  rw [stamp_eq]
  exact (screen.looksLike_picture.draw stamp.short stamp.narrow stamp.wraps).1.resolution

variable {x y : Nat} (column : x < screen.resolution.width) (row : y < screen.resolution.height)

include column row

theorem pixel_stamp :
    (screen.stamp stamp).1.pixel x y =
      if stamp.Covers screen.resolution x y then (screen.pixel x y).toggled screen.filter
      else screen.pixel x y := by
  rw [stamp_eq]
  exact (screen.looksLike_picture.draw stamp.short stamp.narrow stamp.wraps).1.pixel x y column row

theorem on_stamp :
    ((screen.stamp stamp).1.pixel x y).on =
      ((screen.pixel x y).on ^^ decide (stamp.Covers screen.resolution x y)) := by
  rw [screen.pixel_stamp stamp column row]
  by_cases covered : stamp.Covers screen.resolution x y
  · rw [if_pos covered, Pixel.on_toggled, decide_eq_true covered, Bool.xor_true]
  · rw [if_neg covered, decide_eq_false covered, Bool.xor_false]

end OneDraw

/-- A draw collides when it covers a pixel that is on. -/
theorem stamp_collides (screen : Screen) (stamp : Stamp) :
    ∃ collided, (screen.stamp stamp).2 = some collided ∧
      (collided = true ↔ ∃ x < screen.resolution.width, ∃ y < screen.resolution.height,
        stamp.Covers screen.resolution x y ∧ (screen.pixel x y).on = true) := by
  refine ⟨(screen.draw stamp.sprite stamp.wraps).2, ?_, ?_⟩
  · rw [stamp_eq]
  · rw [(screen.looksLike_picture.draw stamp.short stamp.narrow stamp.wraps).2]
    exact decide_eq_true_iff

/-! ### Draws one after the other -/

theorem stampAll_cons (screen : Screen) (first : Stamp) (later : List Stamp) :
    screen.stampAll (first :: later) =
      (((screen.stamp first).1.stampAll later).1,
        (screen.stamp first).2 :: ((screen.stamp first).1.stampAll later).2) := rfl

theorem resolution_stampAll (screen : Screen) (stamps : List Stamp) :
    (screen.stampAll stamps).1.resolution = screen.resolution := by
  induction stamps generalizing screen with
  | nil => rfl
  | cons first later ih =>
      rw [stampAll_cons]
      exact (ih (screen.stamp first).1).trans (screen.resolution_stamp first)

/-- No draw breaks off: every one tells whether it collided. -/
theorem told_stampAll (screen : Screen) (stamps : List Stamp) :
    ∀ told ∈ (screen.stampAll stamps).2, told.isSome = true := by
  induction stamps generalizing screen with
  | nil =>
      intro told member
      exact absurd member List.not_mem_nil
  | cons first later ih =>
      obtain ⟨collided, tells, _⟩ := screen.stamp_collides first
      intro told member
      rw [stampAll_cons] at member
      rcases List.mem_cons.mp member with rfl | among
      · rw [tells]
        rfl
      · exact ih (screen.stamp first).1 told among

/-- What is left on at a pixel: what was on, once switched by every stamp that covers it. -/
theorem on_stampAll (screen : Screen) (stamps : List Stamp) {x y : Nat}
    (column : x < screen.resolution.width) (row : y < screen.resolution.height) :
    ((screen.stampAll stamps).1.pixel x y).on =
      ((screen.pixel x y).on ^^
        decide (stamps.countP (fun stamp => stamp.Covers screen.resolution x y) % 2 = 1)) := by
  induction stamps generalizing screen with
  | nil =>
      rw [List.countP_nil]
      exact (Bool.xor_false _).symm
  | cons first later ih =>
      have same := screen.resolution_stamp first
      have drawn := screen.on_stamp first column row
      have rest := ih (screen.stamp first).1 (same ▸ column) (same ▸ row)
      rw [stampAll_cons, rest, drawn, same, Bool.xor_assoc, List.countP_cons]
      congr 1
      by_cases covered : first.Covers screen.resolution x y
      · rw [decide_eq_true covered, if_pos rfl, Bool.true_xor, ← decide_not, decide_eq_decide]
        omega
      · rw [decide_eq_false covered, if_neg Bool.false_ne_true, Bool.false_xor, Nat.add_zero]

/-! ### What is on -/

/-- Two screens show the same bits when they have the same resolution, and every pixel of it is on
in both or in none. -/
theorem lights_eq {left right : Screen} (resolution : left.resolution = right.resolution)
    (same : ∀ x y, x < left.resolution.width → y < left.resolution.height →
      (left.pixel x y).on = (right.pixel x y).on) :
    left.frame.lights = right.frame.lights := by
  have pictured (screen : Screen) : screen.frame.lights =
      (screen.resolution, Array.ofFn (n := screen.resolution.width * screen.resolution.height)
        fun index =>
          (screen.pixel (index.val % screen.resolution.width)
            (index.val / screen.resolution.width)).on) :=
    congrArg (Prod.mk screen.resolution) Array.map_ofFn
  rw [pictured left, pictured right, ← resolution]
  refine congrArg (Prod.mk left.resolution) (congrArg Array.ofFn (funext fun index => ?_))
  apply same
  · exact Nat.mod_lt _ left.resolution.width_pos
  · exact Nat.div_lt_of_lt_mul index.isLt

/-- The order of draws does not matter to what is on. -/
theorem lights_stampAll_of_perm (screen : Screen) {stamps others : List Stamp}
    (reordered : stamps.Perm others) :
    (screen.stampAll stamps).1.frame.lights = (screen.stampAll others).1.frame.lights := by
  have resolution (drawn : List Stamp) := screen.resolution_stampAll drawn
  apply lights_eq ((resolution stamps).trans (resolution others).symm)
  intro x y column row
  rw [resolution stamps] at column row
  rw [screen.on_stampAll stamps column row, screen.on_stampAll others column row,
    reordered.countP_eq]

theorem lights_stampAll_twice (screen : Screen) (stamp : Stamp) :
    (screen.stampAll [stamp, stamp]).1.frame.lights = screen.frame.lights := by
  have resolution := screen.resolution_stampAll [stamp, stamp]
  apply lights_eq resolution
  intro x y column row
  rw [resolution] at column row
  have even : ∀ covers : Stamp → Bool, [stamp, stamp].countP covers % 2 ≠ 1 := by
    intro covers
    rw [List.countP_cons, List.countP_cons, List.countP_nil]
    omega
  rw [screen.on_stampAll _ column row, decide_eq_false (even _), Bool.xor_false]

/-- The second of two same draws finds on what the first one has found off. -/
theorem stamp_again_collides (screen : Screen) (stamp : Stamp) :
    ∃ collided, ((screen.stamp stamp).1.stamp stamp).2 = some collided ∧
      (collided = true ↔ ∃ x < screen.resolution.width, ∃ y < screen.resolution.height,
        stamp.Covers screen.resolution x y ∧ (screen.pixel x y).on = false) := by
  obtain ⟨collided, tells, collides⟩ := (screen.stamp stamp).1.stamp_collides stamp
  refine ⟨collided, tells, collides.trans ?_⟩
  rw [screen.resolution_stamp stamp]
  refine exists_congr fun x => and_congr_right fun column => exists_congr fun y =>
    and_congr_right fun row => and_congr_right fun covered => ?_
  rw [screen.on_stamp stamp column row, decide_eq_true covered, Bool.xor_true, Bool.not_eq_true']

/-- Drawing sprites is an exclusive or on what is on. From every screen, two draws leave the same
bits of the frame in either order, and a draw made twice gives back every bit. The second time it
collides exactly if it covers some pixel of the screen that was off before the first. No draw
breaks off. -/
theorem stamps_exclusive_or (screen : Screen) (first second : Stamp) :
    (∀ told ∈ (screen.stampAll [first, second]).2, told.isSome = true) ∧
    (∀ told ∈ (screen.stampAll [second, first]).2, told.isSome = true) ∧
    (screen.stampAll [first, second]).1.frame.lights =
      (screen.stampAll [second, first]).1.frame.lights ∧
    (screen.stampAll [first, first]).1.frame.lights = screen.frame.lights ∧
    ∃ once again, (screen.stampAll [first, first]).2 = [some once, some again] ∧
      (again = true ↔ ∃ x < screen.resolution.width, ∃ y < screen.resolution.height,
        first.Covers screen.resolution x y ∧ (screen.pixel x y).on = false) := by
  refine ⟨screen.told_stampAll _, screen.told_stampAll _,
    screen.lights_stampAll_of_perm (.swap second first []), screen.lights_stampAll_twice first, ?_⟩
  obtain ⟨once, tellsOnce, _⟩ := screen.stamp_collides first
  obtain ⟨again, tellsAgain, collides⟩ := screen.stamp_again_collides first
  refine ⟨once, again, ?_, collides⟩
  rw [stampAll_cons, stampAll_cons, tellsOnce, tellsAgain]
  rfl

/-- It stands over the lower right corner, and what is over the edge is dropped. -/
def clippedStamp : Stamp :=
  ⟨⟨60, 31, [0xFF00, 0xFF00], 8⟩, false, by decide, by decide⟩

/-- It stands over the same corner, and what is over the edge comes in on the other side. -/
def wrappedStamp : Stamp :=
  ⟨⟨62, 31, [0xFF00, 0xFF00], 8⟩, true, by decide, by decide⟩

theorem stamps_exclusive_or_overlapping :
    let screen := blank .fixFlicker
    let both := (screen.stampAll [clippedStamp, wrappedStamp]).1
    (both.pixel 60 31).on = true ∧ (both.pixel 62 31).on = false ∧ (both.pixel 0 0).on = true ∧
      both.frame.lights = (screen.stampAll [wrappedStamp, clippedStamp]).1.frame.lights ∧
      (screen.stampAll [wrappedStamp, wrappedStamp]).1.frame.lights = screen.frame.lights ∧
      ∃ once, (screen.stampAll [wrappedStamp, wrappedStamp]).2 = [some once, some true] := by
  intro screen both
  have dark (x y : Nat) : (screen.pixel x y).on = false :=
    congrArg Pixel.on (Grid.cell_dark _ _)
  obtain ⟨_, _, swapped, _, _⟩ := screen.stamps_exclusive_or clippedStamp wrappedStamp
  obtain ⟨_, _, _, undone, once, again, told, collides⟩ :=
    screen.stamps_exclusive_or wrappedStamp clippedStamp
  have collidesAgain : again = true :=
    collides.mpr ⟨0, by decide, 0, by decide, by decide +kernel, dark 0 0⟩
  rw [collidesAgain] at told
  refine ⟨?_, ?_, ?_, swapped, undone, once, told⟩
  · rw [screen.on_stampAll _ (by decide) (by decide), dark]
    decide +kernel
  · rw [screen.on_stampAll _ (by decide) (by decide), dark]
    decide +kernel
  · rw [screen.on_stampAll _ (by decide) (by decide), dark]
    decide +kernel

end Screen
end Chip8
