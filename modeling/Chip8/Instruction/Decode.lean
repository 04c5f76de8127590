import Chip8.Instruction

set_option autoImplicit false

/-!
Reading an instruction from its word. The highest hexadecimal digit of the word names a
family; within the families 0, 8, E and F further digits pick the instruction. A word that
none of them takes is no instruction.
-/

namespace Chip8.Instruction

/-- The digit at the place of a given weight: 1, 0x10 or 0x100. -/
def digit (code weight : Nat) : Fin 16 :=
  Fin.ofNat 16 (code / weight)

/-- The family 0nnn: the screen, the return and the end of the program. -/
def ofSystemCode? (code : Nat) : Option Instruction :=
  if code / 16 = 0x00C then some (.scrollDown (digit code 1))
  else match code with
    | 0x00E0 => some .clear
    | 0x00EE => some .ret
    | 0x0230 => some .tallScreen
    | 0x00FB => some .scrollRight
    | 0x00FC => some .scrollLeft
    | 0x00FD => some .exit
    | 0x00FE => some .lowScreen
    | 0x00FF => some .highScreen
    | _ => none

def operation? : Nat → Option Operation
  | 0x0 => some .assign
  | 0x1 => some .or
  | 0x2 => some .and
  | 0x3 => some .xor
  | 0x4 => some .add
  | 0x5 => some .subtract
  | 0x6 => some .shiftRight
  | 0x7 => some .subtractFrom
  | 0xE => some .shiftLeft
  | _ => none

/-- The family Exkk: the keys. -/
def ofKeyCode? (x : Register) : Nat → Option Instruction
  | 0x9E => some (.skip (.keyDown x))
  | 0xA1 => some (.skip (.keyUp x))
  | _ => none

/-- The family Fxkk: timers, the index register and transfers. -/
def ofTransferCode? (x : Register) : Nat → Option Instruction
  | 0x07 => some (.readDelay x)
  | 0x0A => some (.awaitKey x)
  | 0x15 => some (.setDelay x)
  | 0x18 => some (.setSound x)
  | 0x1E => some (.addIndex x)
  | 0x29 => some (.smallDigit x)
  | 0x30 => some (.bigDigit x)
  | 0x33 => some (.decimal x)
  | 0x55 => some (.store x)
  | 0x65 => some (.fetch x)
  | 0x75 => some (.saveFlags x)
  | 0x85 => some (.restoreFlags x)
  | _ => none

/-- The instruction of a code below 65536, on a platform that has them all. -/
def ofCode? (code : Nat) : Option Instruction :=
  let x := digit code 0x100
  let y := digit code 0x10
  let byte := UInt8.ofNat code
  let target := Address.ofNat code
  match code / 4096 with
  | 0x0 => ofSystemCode? code
  | 0x1 => some (.jump target)
  | 0x2 => some (.call target)
  | 0x3 => some (.skip (.isByte x byte))
  | 0x4 => some (.skip (.isNotByte x byte))
  | 0x5 => if code % 16 = 0 then some (.skip (.isEqual x y)) else none
  | 0x6 => some (.setByte x byte)
  | 0x7 => some (.addByte x byte)
  | 0x8 => (operation? (code % 16)).map fun operation => .combine operation x y
  | 0x9 => if code % 16 = 0 then some (.skip (.isDifferent x y)) else none
  | 0xA => some (.setIndex target)
  | 0xB => some (.jumpIndexed target)
  | 0xC => some (.random x byte)
  | 0xD => some (.draw x y (digit code 1))
  | 0xE => ofKeyCode? x (code % 256)
  | 0xF => ofTransferCode? x (code % 256)
  | _ => none

def decode? (platform : Platform) (word : UInt16) : Option Instruction :=
  (ofCode? word.toNat).filter (isOn platform)

end Chip8.Instruction
