set_option autoImplicit false

/-!
The three resolutions. The screen always has 128x64 cells; at a resolution below the finest,
a logical pixel is a block of cells, so changing the resolution moves nothing.
-/

namespace Chip8

inductive Resolution where
  /-- 64x32, the screen of the COSMAC VIP. -/
  | low
  /-- 64x64, the VIP's screen driven at twice its height. -/
  | tall
  /-- 128x64, the screen of the extended machines. -/
  | high
  deriving DecidableEq

namespace Resolution

/-- Cells side by side in a logical pixel. -/
def cellsAcross : Resolution → Nat
  | .low => 2
  | .tall => 2
  | .high => 1

def cellsDown : Resolution → Nat
  | .low => 2
  | .tall => 1
  | .high => 1

def width (resolution : Resolution) : Nat :=
  128 / resolution.cellsAcross

def height (resolution : Resolution) : Nat :=
  64 / resolution.cellsDown

theorem cellsAcross_pos (resolution : Resolution) : 0 < resolution.cellsAcross := by
  cases resolution <;> decide

theorem cellsDown_pos (resolution : Resolution) : 0 < resolution.cellsDown := by
  cases resolution <;> decide

theorem width_mul_cellsAcross (resolution : Resolution) :
    resolution.width * resolution.cellsAcross = 128 := by
  cases resolution <;> rfl

theorem height_mul_cellsDown (resolution : Resolution) :
    resolution.height * resolution.cellsDown = 64 := by
  cases resolution <;> rfl

theorem width_pos (resolution : Resolution) : 0 < resolution.width := by
  cases resolution <;> decide

theorem height_pos (resolution : Resolution) : 0 < resolution.height := by
  cases resolution <;> decide

end Resolution

end Chip8
