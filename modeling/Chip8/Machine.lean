import Chip8.Keypad
import Chip8.Profile
import Chip8.ProgramSource
import Chip8.Screen
import Chip8.Tape
import Chip8.Timers

set_option autoImplicit false

/-!
The machine: memory, registers, the way back from calls, screen, timers and keypad, together
with the platform and the dialect it was made for. Addresses are twelve bits wide by type, so
no state of the machine points outside memory.
-/

namespace Chip8

/-- The values of V0 to VF, or of the user flags. -/
abbrev Registers := Vector UInt8 16

structure Machine where
  memory : Memory
  screen : Screen
  timers : Timers
  keypad : Keypad
  platform : Platform
  dialect : Dialect
  registers : Registers
  /-- I, where sprites are read and bytes are put. -/
  index : Address
  pc : Address
  /-- Where open calls go back to, the latest first. -/
  stack : List Address
  flags : Registers
  /-- The edge of the tone that an instruction made and nobody has taken yet. -/
  tone : Option Tone
  tape : Tape

structure DrawRequest where
  x : UInt8
  y : UInt8
  rows : UInt8
  deriving DecidableEq

namespace Machine

def ofProfile (profile : Profile) (filter : Filter) (tape : Tape) : Machine where
  memory := Memory.blank
  screen := Screen.blank filter
  timers := Timers.idle
  keypad := Keypad.idle
  platform := profile.platform
  dialect := profile.dialect
  registers := Vector.replicate 16 0
  index := 0
  pc := Memory.programStart
  stack := []
  flags := Vector.replicate 16 0
  tone := none
  tape := tape

/-- The first word of programs for the tall screen: a jump into the machine code they bring. -/
def tallScreenMark : UInt16 := 0x1260

def tallScreenStart : Address := 0x2C0

/-- A loaded machine made ready to start: a program for the tall screen starts behind its
machine code, with the tall screen on. -/
def prepared (machine : Machine) : Machine :=
  if machine.platform.hasTallScreen
      && machine.memory.word Memory.programStart == tallScreenMark then
    { machine with screen := machine.screen.setResolution .tall, pc := tallScreenStart }
  else machine

/-- Loads a program and tells its length; a failure changes nothing. -/
def load (machine : Machine) (source : ProgramSource) : Machine × Except Fault Nat :=
  match machine.memory.load source with
  | (_, .error fault) => (machine, .error fault)
  | (memory, .ok length) => ({ machine with memory := memory }.prepared, .ok length)

def register (machine : Machine) (x : Register) : UInt8 :=
  machine.registers[x]

def setRegister (machine : Machine) (x : Register) (value : UInt8) : Machine :=
  { machine with registers := machine.registers.set x value }

theorem register_setRegister (machine : Machine) (x r : Register) (value : UInt8) :
    (machine.setRegister x value).register r = if r = x then value else machine.register r := by
  by_cases same : r = x
  · subst same
    simp [register, setRegister]
  · have apart : x.val ≠ r.val := fun equal => same (Fin.ext equal.symm)
    simp [register, setRegister, Vector.getElem_set_ne, apart, same]

theorem register_setRegister_other (machine : Machine) {x r : Register} (value : UInt8)
    (other : r ≠ x) : (machine.setRegister x value).register r = machine.register r := by
  rw [register_setRegister, if_neg other]

def setFlag (machine : Machine) (condition : Bool) : Machine :=
  machine.setRegister flagRegister condition.toUInt8

def registersUpTo (machine : Machine) (x : Register) : List UInt8 :=
  machine.registers.toList.take (x.val + 1)

def takeTone (machine : Machine) : Machine × Option Tone :=
  ({ machine with tone := none }, machine.tone)

def setSound (machine : Machine) (value : UInt8) : Machine :=
  let (timers, edge) := machine.timers.setSound value
  { machine with timers := timers, tone := edge.or machine.tone }

/-- Ends a wait for a key: the lowest key that is down goes into a register and is released.
There is nothing to end if no key is down. -/
def takeKey? (machine : Machine) (x : Register) : Option Machine :=
  machine.keypad.take?.map fun (key, keypad) =>
    { machine with keypad := keypad }.setRegister x (UInt8.ofNat key.val)

/-- The sprite that a request finds at I: two bytes a row and sixteen rows if it asks for no
rows on a 128x64 screen, else one byte a row. -/
def sprite (machine : Machine) (request : DrawRequest) : Sprite :=
  if request.rows = 0 ∧ machine.screen.resolution = .high then
    { x := request.x.toNat
      y := request.y.toNat
      rows := (List.range 16).map fun row =>
        machine.memory.word (machine.index + Address.ofNat (2 * row))
      width := 16 }
  else
    { x := request.x.toNat
      y := request.y.toNat
      rows := (machine.memory.readAll machine.index request.rows.toNat).map Sprite.narrowRow
      width := 8 }

/-- Toggles the requested sprite onto the screen; VF tells whether it switched a pixel off. -/
def drawSprite (machine : Machine) (request : DrawRequest) : Machine :=
  let (screen, collided) := machine.screen.draw (machine.sprite request) machine.dialect.spritesWrap
  { machine with screen := screen }.setFlag collided

end Machine

end Chip8
