import Chip8.Terminal.Canvas

set_option autoImplicit false

/-!
A drawing put into characters. Every character stands for one pixel, or for two by four
braille dots; where pixels of several shades share a character, the brightest one gives it
its colour. A frame with the title in its upper side runs around the picture.
-/

namespace Chip8.Terminal

/-- Dots side by side and on top of each other in a character. -/
def Marker.dots : Marker → Nat × Nat
  | .block => (1, 1)
  | .braille => (2, 4)

def brailleWeight : Nat → Nat → Nat
  | 0, 0 => 0x01
  | 0, 1 => 0x02
  | 0, 2 => 0x04
  | 0, 3 => 0x40
  | 1, 0 => 0x08
  | 1, 1 => 0x10
  | 1, 2 => 0x20
  | 1, 3 => 0x80
  | _, _ => 0

/-- A character of a picture: the dots in it, as a set of bits, and its colour. -/
structure Mark where
  dots : Nat
  colour : Option Colour

def Marker.character (marker : Marker) (dots : Nat) : Char :=
  if dots = 0 then ' '
  else match marker with
    | .block => '█'
    | .braille => Char.ofNat (0x2800 + dots)

def Colour.escape : Colour → String
  | .white => "\x1b[97m"
  | .grey part =>
      let level := toString part
      "\x1b[38;2;" ++ level ++ ";" ++ level ++ ";" ++ level ++ "m"

def plainEscape : String := "\x1b[0m"

namespace Drawing

/-- A point's place, from the length of its axis onto a number of dots. -/
def scale (place length dots : Nat) : Nat :=
  if length ≤ 1 then 0 else place * (dots - 1) / (length - 1)

/-- The marks inside the border, row by row. -/
def marks (drawing : Drawing) : Array Mark :=
  let columns := drawing.columns - 2
  let rows := drawing.rows - 2
  let (across, down) := drawing.marker.dots
  let width := (drawing.xBounds.2 - drawing.xBounds.1).toNat + 1
  let height := (drawing.yBounds.2 - drawing.yBounds.1).toNat + 1
  let blank := Array.replicate (columns * rows) (⟨0, none⟩ : Mark)
  drawing.layers.foldl
    (fun marks layer =>
      layer.points.foldl
        (fun marks point =>
          let x := scale point.1.toNat width (columns * across)
          let y := scale (-point.2).toNat height (rows * down)
          let weight := brailleWeight (x % across) (y % down)
          marks.modify (y / down * columns + x / across) fun mark =>
            ⟨mark.dots ||| weight, some layer.colour⟩)
        marks)
    blank

def rowText (marker : Marker) (row : List Mark) : String :=
  String.join (row.map fun mark =>
    let character := toString (marker.character mark.dots)
    match mark.colour with
    | none => character
    | some colour => colour.escape ++ character ++ plainEscape)

def lines (drawing : Drawing) : List String :=
  let columns := drawing.columns - 2
  let title := String.ofList (drawing.title.toList.take columns)
  let bar (count : Nat) : String := String.ofList (List.replicate count '─')
  let marks := drawing.marks
  let row (y : Nat) : String :=
    "│" ++ rowText drawing.marker (marks.extract (y * columns) ((y + 1) * columns)).toList ++ "│"
  ["┌" ++ title ++ bar (columns - title.length) ++ "┐"]
    ++ (List.range (drawing.rows - 2)).map row
    ++ ["└" ++ bar columns ++ "┘"]

end Drawing

def ScreenCommand.text : ScreenCommand → String
  | .enterAlternateScreen => "\x1b[?1049h"
  | .hideCursor => "\x1b[?25l"
  | .clear => "\x1b[2J"
  | .show drawing => "\x1b[H" ++ "\r\n".intercalate drawing.lines
  | .showCursor => "\x1b[?25h"
  | .leaveAlternateScreen => "\x1b[?1049l"

end Chip8.Terminal
