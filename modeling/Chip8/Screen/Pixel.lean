import Chip8.Fault

set_option autoImplicit false

/-!
A point of the screen and what becomes of it when it goes off. Programs redraw by toggling,
which makes moving pictures flicker; a filter lets a point glow on for some refreshes after
it went off. The glow is for the eye only: a glowing point counts as off.
-/

namespace Chip8

inductive Filter where
  /-- It is dark at once. -/
  | none
  /-- It stays lit for two more refreshes. -/
  | fixFlicker
  /-- It fades out over ten refreshes. -/
  | fade
  deriving DecidableEq

namespace Filter

/-- The most refreshes for which any filter lets a point glow. -/
def fadeLength : Nat := 10

/-- For how many refreshes a point glows after it went off. -/
def delay : Filter → Nat
  | .none => 0
  | .fixFlicker => 2
  | .fade => fadeLength

def name : Filter → String
  | .none => "none"
  | .fixFlicker => "fix-flicker"
  | .fade => "fade"

def ofName (text : String) : Except Fault Filter :=
  match text.toLower with
  | "none" => .ok .none
  | "fix-flicker" => .ok .fixFlicker
  | "fixflicker" => .ok .fixFlicker
  | "fade" => .ok .fade
  | _ => .error (.unknownFilter text)

def usual : Filter := .none

theorem delay_le (filter : Filter) : filter.delay ≤ fadeLength := by
  cases filter <;> decide

end Filter

/-- A point of the screen: whether it is on, and for how many refreshes it still glows. -/
structure Pixel where
  on : Bool
  glow : Nat
  deriving DecidableEq

namespace Pixel

def dark : Pixel := ⟨false, 0⟩

def turnOn (_ : Pixel) : Pixel := ⟨true, 0⟩

/-- The point switched off; one that is off already keeps what is left of its glow. -/
def turnOff (filter : Filter) (pixel : Pixel) : Pixel :=
  if pixel.on then ⟨false, filter.delay⟩ else pixel

def isLit (pixel : Pixel) : Bool :=
  pixel.on || pixel.glow != 0

def age (pixel : Pixel) : Pixel :=
  { pixel with glow := pixel.glow - 1 }

end Pixel

end Chip8
