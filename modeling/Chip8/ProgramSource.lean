import Chip8.Fault
import Chip8.Memory

set_option autoImplicit false

/-!
Where a program comes from: a run of bytes that may break off with a failure. A program is
accepted as a whole or not at all, and of several reasons to refuse it a failed read comes
first, then an empty program, then one that is too large.
-/

namespace Chip8

/-- The bytes of a program, and the failure with which reading them ended, if it did. -/
structure ProgramSource where
  bytes : List UInt8
  failure : Option String

namespace ProgramSource

def read (source : ProgramSource) : Except Fault (List UInt8) :=
  match source.failure with
  | some text => .error (.device text)
  | none => .ok source.bytes

end ProgramSource

namespace Memory

def refusal? (image : List UInt8) : Option Fault :=
  if image.length = 0 then some .emptyProgram
  else if programCapacity < image.length then
    some (.programTooLarge image.length programCapacity)
  else none

theorem refusal?_eq_none_iff (image : List UInt8) :
    refusal? image = none ↔ image ≠ [] ∧ image.length ≤ programCapacity := by
  unfold refusal?
  by_cases empty : image = []
  · simp [empty]
  · have some : image.length ≠ 0 := fun none => empty (List.eq_nil_of_length_eq_zero none)
    rw [if_neg some]
    by_cases large : programCapacity < image.length
    · simp [large, Nat.not_le.mpr large]
    · simp [large, empty, Nat.le_of_not_lt large]

/-- Places an image at the program's address and tells its length; a refused image changes
nothing. -/
def loadImage (memory : Memory) (image : List UInt8) : Memory × Except Fault Nat :=
  match refusal? image with
  | some fault => (memory, .error fault)
  | none => (memory.writeAll programStart image, .ok image.length)

def load (memory : Memory) (source : ProgramSource) : Memory × Except Fault Nat :=
  match source.read with
  | .error fault => (memory, .error fault)
  | .ok image => memory.loadImage image

end Memory

end Chip8
