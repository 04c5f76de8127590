import Chip8.Fault

set_option autoImplicit false

/-!
The platforms on which programs of this family were written, and what sets them apart. A
platform differs from the others in its dialect (a record of seven choices that the
instructions consult), in two gated groups of instructions, and in its usual speed.
-/

namespace Chip8

inductive Platform where
  /-- The interpreter of the COSMAC VIP. -/
  | cosmacVip
  /-- Programs of the COSMAC VIP that bring machine code for a 64x64 screen. -/
  | hybridVip
  /-- What current programs expect. -/
  | modern
  /-- The VIP's colour expansion. -/
  | chip8x
  /-- The HP-48 calculators. -/
  | hp48
  /-- The extended HP-48 interpreter with its 128x64 screen. -/
  | superChip
  deriving DecidableEq

/-- Where the index register stands after a transfer of V0 to Vx. -/
inductive IndexAdvance where
  /-- On the byte after the last one transferred. -/
  | pastLast
  | onLast
  | stay
  deriving DecidableEq

/-- The choices on which the platforms' instructions disagree. -/
structure Dialect where
  /-- OR, AND and XOR set VF to zero. -/
  logicClearsFlag : Bool
  /-- Shifts take their operand from Vy and not from Vx. -/
  shiftReadsVy : Bool
  /-- The indexed jump adds the register its target names and not V0. -/
  jumpAddsVx : Bool
  /-- Sprites come back in on the other side of the screen and are not cut off. -/
  spritesWrap : Bool
  /-- A sprite is drawn at the next refresh and not at once. -/
  drawAwaitsRefresh : Bool
  indexAdvance : IndexAdvance
  /-- Adding to the index register sets VF by whether the sum leaves memory. -/
  indexSetsFlag : Bool
  deriving DecidableEq

namespace Platform

def all : List Platform :=
  [.cosmacVip, .hybridVip, .modern, .chip8x, .hp48, .superChip]

def id : Platform → String
  | .cosmacVip => "originalChip8"
  | .hybridVip => "hybridVIP"
  | .modern => "modernChip8"
  | .chip8x => "chip8x"
  | .hp48 => "chip48"
  | .superChip => "superchip"

/-- The platform with a given name; capitals count as small letters. -/
def ofName (name : String) : Except Fault Platform :=
  match all.find? fun platform => platform.id.toLower == name.toLower with
  | some platform => .ok platform
  | none => .error (.unknownPlatform name)

def vipDialect : Dialect where
  logicClearsFlag := true
  shiftReadsVy := true
  jumpAddsVx := false
  spritesWrap := false
  drawAwaitsRefresh := true
  indexAdvance := .pastLast
  indexSetsFlag := false

def dialect : Platform → Dialect
  | .cosmacVip | .hybridVip | .chip8x => vipDialect
  | .modern => { vipDialect with logicClearsFlag := false, drawAwaitsRefresh := false }
  | .hp48 =>
      { vipDialect with
        logicClearsFlag := false
        shiftReadsVy := false
        jumpAddsVx := true
        drawAwaitsRefresh := false
        indexAdvance := .onLast }
  | .superChip =>
      { vipDialect with
        logicClearsFlag := false
        shiftReadsVy := false
        jumpAddsVx := true
        drawAwaitsRefresh := false
        indexAdvance := .stay }

/-- How many instructions a second a typical program of the platform expects. -/
def usualRate : Platform → UInt32
  | .cosmacVip | .hybridVip | .chip8x => 900
  | .modern => 720
  | .hp48 | .superChip => 1800

/-- Whether the platform has the 64x64 screen and its ways in. -/
def hasTallScreen (platform : Platform) : Bool :=
  platform = .hybridVip

def hasExtendedSet (platform : Platform) : Bool :=
  platform = .superChip

end Platform

end Chip8
