import Chip8.Screen.Frame

set_option autoImplicit false

/-!
A picture laid out for a terminal. The lit pixels are sorted into layers by how bright they
are; x runs to the right from 0 and y runs down from 0 into the negative numbers. If the
picture fits with a character for each pixel it is shown in blocks, and else in braille dots,
two of them side by side and four on top of each other in a character.
-/

namespace Chip8.Terminal

/-- How bright a pixel is shown, from 0 for dark to 10 for fully lit. -/
abbrev Shade := Fin 11

def shade (filter : Filter) (pixel : Pixel) : Shade :=
  if pixel.on then 10
  else if filter = .fade then ⟨min pixel.glow 10, by omega⟩
  else if pixel.isLit then 10
  else 0

inductive Colour where
  | white
  /-- A grey of three equal parts of at most 255. -/
  | grey (part : Nat)
  deriving DecidableEq

def colour (level : Nat) : Colour :=
  if Filter.fadeLength ≤ level then .white else .grey (255 * level / Filter.fadeLength)

/-- The places of a frame's pixels of one shade, row by row. -/
def pointsOf (frame : Frame) (level : Shade) : List (Int × Int) :=
  (frame.pixels.toList.zipIdx.filter fun place =>
    decide (0 < level.val) && shade frame.filter place.1 == level).map fun place =>
      (((place.2 % frame.width : Nat) : Int), -((place.2 / frame.width : Nat) : Int))

def shades (frame : Frame) : Vector (List (Int × Int)) 11 :=
  Vector.ofFn fun level => pointsOf frame level

def columnBounds (frame : Frame) : Int × Int :=
  (0, frame.width - 1)

def rowBounds (frame : Frame) : Int × Int :=
  (-(frame.height - 1), 0)

/-- Columns and rows of characters for a picture in blocks, with a border around it. -/
def blockSize (frame : Frame) : Nat × Nat :=
  (2 + frame.width, 2 + frame.height)

/-- Columns and rows of characters for a picture in braille, with a border around it. -/
def brailleSize (frame : Frame) : Nat × Nat :=
  (2 + frame.width / 2, 2 + (frame.height + 3) / 4)

inductive Marker where
  | block
  | braille
  deriving DecidableEq

structure Layer where
  colour : Colour
  points : List (Int × Int)
  deriving DecidableEq

structure Drawing where
  title : String
  marker : Marker
  columns : Nat
  rows : Nat
  xBounds : Int × Int
  yBounds : Int × Int
  /-- Without empty ones, the darkest first. -/
  layers : List Layer
  deriving DecidableEq

def layersOf (frame : Frame) : List Layer :=
  ((List.finRange 11).map fun level : Shade =>
    { colour := colour level.val, points := (shades frame)[level] }).filter fun layer : Layer =>
      !layer.points.isEmpty

/-- Lays a frame out on a terminal of some columns and rows. -/
def Drawing.ofFrame (title : String) (columns rows : Nat) (frame : Frame) : Drawing :=
  let (blockColumns, blockRows) := blockSize frame
  let (brailleColumns, brailleRows) := brailleSize frame
  let fits := blockColumns ≤ columns ∧ blockRows ≤ rows
  { title := title
    marker := if fits then .block else .braille
    columns := if fits then blockColumns else min brailleColumns columns
    rows := if fits then blockRows else min brailleRows rows
    xBounds := columnBounds frame
    yBounds := rowBounds frame
    layers := layersOf frame }

inductive ScreenCommand where
  | enterAlternateScreen
  | hideCursor
  | clear
  | show (drawing : Drawing)
  | showCursor
  | leaveAlternateScreen
  deriving DecidableEq

def opening : List ScreenCommand :=
  [.enterAlternateScreen, .hideCursor, .clear]

def closing : List ScreenCommand :=
  [.showCursor, .leaveAlternateScreen]

end Chip8.Terminal
