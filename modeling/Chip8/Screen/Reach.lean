import Chip8.Screen

set_option autoImplicit false

/-!
How far a request to the screen can reach. A row of a sprite has sixteen columns, and the cells
that a scroll moves by are counted in 64 bits. A drawing that comes to a column past the
sixteenth breaks off there, with everything before it drawn; a scroll that is too long moves
nothing. The sprites of the machine are at most sixteen columns wide, and `tryDraw_eq` says that
their drawing never breaks off.
-/

namespace Chip8

namespace Sprite

/-- Whether no dot of a row falls over the right edge. After a dot that does, and is not to come
in on the other side, the rest of the row is left out. -/
def staysInside (sprite : Sprite) (resolution : Resolution) (row : UInt16) : Bool :=
  (List.range 16).all fun column =>
    !hasDot row column || decide (sprite.x % resolution.width + column < resolution.width)

/-- The rows that drawing comes to: without wrapping, those below the lower edge are left out. -/
def rowsReached (sprite : Sprite) (resolution : Resolution) (wraps : Bool) : List UInt16 :=
  if wraps then sprite.rows
  else sprite.rows.take (resolution.height - sprite.y % resolution.height)

/-- The row in which drawing comes to a column past the sixteenth, if there is one. -/
def overrun? (sprite : Sprite) (resolution : Resolution) (wraps : Bool) : Option Nat :=
  if sprite.width ≤ 16 then none
  else (sprite.rowsReached resolution wraps).findIdx? fun row =>
    wraps || sprite.staysInside resolution row

theorem overrun?_eq_none {sprite : Sprite} (fits : sprite.width ≤ 16) (resolution : Resolution)
    (wraps : Bool) : sprite.overrun? resolution wraps = none :=
  if_pos fits

end Sprite

namespace Screen

/-- Draws a sprite of any width. A drawing that breaks off tells nothing about collisions. -/
def tryDraw (screen : Screen) (sprite : Sprite) (wraps : Bool) : Screen × Option Bool :=
  match sprite.overrun? screen.resolution wraps with
  | none =>
      let (drawn, collided) := screen.draw sprite wraps
      (drawn, some collided)
  | some row =>
      ((screen.draw { sprite with rows := sprite.rows.take (row + 1) } wraps).1, none)

theorem tryDraw_eq (screen : Screen) {sprite : Sprite} (fits : sprite.width ≤ 16)
    (wraps : Bool) :
    screen.tryDraw sprite wraps =
      ((screen.draw sprite wraps).1, some (screen.draw sprite wraps).2) := by
  rw [tryDraw, Sprite.overrun?_eq_none fits]

/-- The most cells that a scroll can move by. -/
def longestScroll : Nat := 18446744073709551615

def scrollDown? (screen : Screen) (rows : Nat) : Option Screen :=
  if rows * screen.resolution.cellsDown ≤ longestScroll then some (screen.scrollDown rows)
  else none

def scrollRight? (screen : Screen) (columns : Nat) : Option Screen :=
  if columns * screen.resolution.cellsAcross ≤ longestScroll then
    some (screen.scrollRight columns)
  else none

def scrollLeft? (screen : Screen) (columns : Nat) : Option Screen :=
  if columns * screen.resolution.cellsAcross ≤ longestScroll then
    some (screen.scrollLeft columns)
  else none

end Screen

end Chip8
