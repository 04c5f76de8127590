import Chip8.Screen.Pixel
import Chip8.Screen.Resolution

set_option autoImplicit false

/-!
A picture of the screen as it is handed to whatever shows it: the logical pixels of one
moment, row by row, with the resolution and the filter in force.
-/

namespace Chip8

structure Frame where
  resolution : Resolution
  filter : Filter
  pixels : Array Pixel
  size_eq : pixels.size = resolution.width * resolution.height
  deriving DecidableEq

namespace Frame

def width (frame : Frame) : Nat := frame.resolution.width

def height (frame : Frame) : Nat := frame.resolution.height

/-- The pixel at a place in the row-major list, so an x past the edge names one of a later row. -/
def pixel? (frame : Frame) (x y : Nat) : Option Pixel :=
  frame.pixels[y * frame.width + x]?

theorem row_of_place {width x : Nat} (column : x < width) (y : Nat) :
    (y * width + x) / width = y := by
  rw [Nat.mul_comm, Nat.mul_add_div (Nat.zero_lt_of_lt column), Nat.div_eq_of_lt column,
    Nat.add_zero]

theorem column_of_place {width x : Nat} (column : x < width) (y : Nat) :
    (y * width + x) % width = x := by
  rw [Nat.mul_comm, Nat.mul_add_mod, Nat.mod_eq_of_lt column]

def countOn (frame : Frame) : Nat :=
  frame.pixels.countP Pixel.on

def countLit (frame : Frame) : Nat :=
  frame.pixels.countP Pixel.isLit

def rows (frame : Frame) : List (List Pixel) :=
  (List.range frame.height).map fun y =>
    (frame.pixels.extract (y * frame.width) ((y + 1) * frame.width)).toList

end Frame

end Chip8
