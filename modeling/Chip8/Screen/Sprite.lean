import Chip8.Screen.Resolution

set_option autoImplicit false

/-!
Sprites: small pictures of up to sixteen columns that are toggled onto the screen. A row is
a word whose highest bit is the leftmost dot. The place of the sprite is reduced to the
screen; dots that still stand over the edge are dropped, or come in on the other side.
-/

namespace Chip8

structure Sprite where
  x : Nat
  y : Nat
  rows : List UInt16
  width : Nat

namespace Sprite

/-- The row of a sprite eight dots wide, which has one byte. -/
def narrowRow (byte : UInt8) : UInt16 :=
  byte.toUInt16 <<< 8

def hasDot (row : UInt16) (column : Nat) : Bool :=
  column < 16 && row.toNat.testBit (15 - column)

/-- The columns and rows of the dots, row by row and from left to right. No row has more than
sixteen columns, however wide the sprite is said to be. -/
def dots (sprite : Sprite) : List (Nat × Nat) :=
  sprite.rows.zipIdx.flatMap fun line =>
    ((List.range (min sprite.width 16)).filter (hasDot line.1)).map fun column => (column, line.2)

/-- The pixel on which a dot falls; none if it is over the edge and sprites do not wrap. -/
def target? (sprite : Sprite) (resolution : Resolution) (wraps : Bool) (dot : Nat × Nat) :
    Option (Nat × Nat) :=
  let x := sprite.x % resolution.width + dot.1
  let y := sprite.y % resolution.height + dot.2
  if wraps then some (x % resolution.width, y % resolution.height)
  else if x < resolution.width ∧ y < resolution.height then some (x, y)
  else none

def targets (sprite : Sprite) (resolution : Resolution) (wraps : Bool) : List (Nat × Nat) :=
  sprite.dots.filterMap (sprite.target? resolution wraps)

theorem target?_inside {sprite : Sprite} {resolution : Resolution} {wraps : Bool}
    {dot pixel : Nat × Nat} (found : sprite.target? resolution wraps dot = some pixel) :
    pixel.1 < resolution.width ∧ pixel.2 < resolution.height := by
  simp only [target?] at found
  split at found
  · cases found
    exact ⟨Nat.mod_lt _ resolution.width_pos, Nat.mod_lt _ resolution.height_pos⟩
  · split at found
    · rename_i inside
      cases found
      exact inside
    · cases found

theorem targets_inside {sprite : Sprite} {resolution : Resolution} {wraps : Bool}
    {pixel : Nat × Nat} (found : pixel ∈ sprite.targets resolution wraps) :
    pixel.1 < resolution.width ∧ pixel.2 < resolution.height := by
  obtain ⟨dot, _, reached⟩ := List.mem_filterMap.mp found
  exact target?_inside reached

end Sprite

end Chip8
