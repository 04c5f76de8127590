import Chip8.Address
import Chip8.Platform

set_option autoImplicit false

/-!
The instruction set. Every instruction is one word; the comments give it in hexadecimal,
where `x` and `y` stand for registers, `n` for a digit, `kk` for a byte and `nnn` for an
address. Most instructions exist everywhere, some only on one kind of platform.
-/

namespace Chip8

inductive Test where
  /-- 3xkk: Vx is a byte. -/
  | isByte (x : Register) (byte : UInt8)
  /-- 4xkk: Vx is not a byte. -/
  | isNotByte (x : Register) (byte : UInt8)
  /-- 5xy0: Vx is Vy. -/
  | isEqual (x y : Register)
  /-- 9xy0: Vx is not Vy. -/
  | isDifferent (x y : Register)
  /-- Ex9E: the key in Vx is down. -/
  | keyDown (x : Register)
  /-- ExA1: the key in Vx is up. -/
  | keyUp (x : Register)
  deriving DecidableEq

/-- The ways to combine two registers, 8xy0 to 8xy7 and 8xyE. -/
inductive Operation where
  | assign
  | or
  | and
  | xor
  | add
  | subtract
  | shiftRight
  | subtractFrom
  | shiftLeft
  deriving DecidableEq

inductive Instruction where
  /-- 00E0: switch all pixels off. -/
  | clear
  /-- 00EE: go back to where the last call came from. -/
  | ret
  /-- 0230, tall screen: clear and change to 64x64. -/
  | tallScreen
  /-- 00Cn, extended: move the picture down by n rows. -/
  | scrollDown (rows : Fin 16)
  /-- 00FB, extended: move the picture to the right by four columns. -/
  | scrollRight
  /-- 00FC, extended: move the picture to the left by four columns. -/
  | scrollLeft
  /-- 00FD, extended: end the program. -/
  | exit
  /-- 00FE, extended: change to 64x32. -/
  | lowScreen
  /-- 00FF, extended: change to 128x64. -/
  | highScreen
  /-- 1nnn: go on at an address. -/
  | jump (target : Address)
  /-- 2nnn: go on at an address and remember the way back. -/
  | call (target : Address)
  /-- 3xkk, 4xkk, 5xy0, 9xy0, Ex9E, ExA1: leave out the next instruction if a test holds. -/
  | skip (test : Test)
  /-- 6xkk: Vx becomes a byte. -/
  | setByte (x : Register) (byte : UInt8)
  /-- 7xkk: a byte is added to Vx, VF stays. -/
  | addByte (x : Register) (byte : UInt8)
  /-- 8xyn: Vx becomes a combination of Vx and Vy. -/
  | combine (operation : Operation) (x y : Register)
  /-- Annn: I becomes an address. -/
  | setIndex (target : Address)
  /-- Bnnn: go on at an address plus a register. -/
  | jumpIndexed (target : Address)
  /-- Cxkk: Vx becomes a random byte under a mask. -/
  | random (x : Register) (mask : UInt8)
  /-- Dxyn: toggle the n rows at I onto the screen at Vx, Vy. -/
  | draw (x y : Register) (rows : Fin 16)
  /-- Fx07: Vx becomes the delay timer. -/
  | readDelay (x : Register)
  /-- Fx0A: wait for a key and put it into Vx. -/
  | awaitKey (x : Register)
  /-- Fx15: set the delay timer to Vx. -/
  | setDelay (x : Register)
  /-- Fx18: set the sound timer to Vx. -/
  | setSound (x : Register)
  /-- Fx1E: add Vx to I. -/
  | addIndex (x : Register)
  /-- Fx29: I becomes the address of a small digit. -/
  | smallDigit (x : Register)
  /-- Fx30, extended: I becomes the address of a big digit. -/
  | bigDigit (x : Register)
  /-- Fx33: put the three decimal digits of Vx at I. -/
  | decimal (x : Register)
  /-- Fx55: put V0 to Vx at I. -/
  | store (x : Register)
  /-- Fx65: fill V0 to Vx from I. -/
  | fetch (x : Register)
  /-- Fx75, extended: keep V0 to Vx in the user flags. -/
  | saveFlags (x : Register)
  /-- Fx85, extended: fill V0 to Vx from the user flags. -/
  | restoreFlags (x : Register)
  deriving DecidableEq

def Instruction.isOn (platform : Platform) : Instruction → Bool
  | .tallScreen => platform.hasTallScreen
  | .scrollDown _ | .scrollRight | .scrollLeft | .exit | .lowScreen | .highScreen
  | .bigDigit _ | .saveFlags _ | .restoreFlags _ => platform.hasExtendedSet
  | _ => true

end Chip8
