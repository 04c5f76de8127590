import Chip8.Text.Hex

set_option autoImplicit false

/-!
The causes that stop a program from being chosen, loaded or run, and the one place where
they are put into words.
-/

namespace Chip8

inductive Fault where
  | unknownOpcode (address : Nat) (word : UInt16)
  | emptyProgram
  /-- The program does not fit between its load address and the end of memory. -/
  | programTooLarge (size limit : Nat)
  | notLoaded
  | unknownPlatform (name : String)
  | unknownFilter (name : String)
  /-- A device or the program's source failed, in its own words. -/
  | device (text : String)
  deriving DecidableEq

def Fault.message : Fault → String
  | .unknownOpcode address word =>
      "unknown opcode 0x" ++ Text.hex 4 word.toNat ++ " at 0x" ++ Text.hex 3 address
  | .emptyProgram => "program is empty"
  | .programTooLarge size limit =>
      "program is too large (" ++ toString size ++ " bytes), max size is "
        ++ toString limit ++ " bytes"
  | .notLoaded => "no program loaded"
  | .unknownPlatform name => "unknown platform '" ++ name ++ "'"
  | .unknownFilter name => "unknown display filter '" ++ name ++ "'"
  | .device text => text

end Chip8
