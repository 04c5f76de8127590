import Chip8.Counter
import Chip8.Screen.Frame
import Chip8.Timers

set_option autoImplicit false

/-!
What happened in a stretch of time. The reports of two stretches, one after the other, add
up to the report of both.
-/

namespace Chip8

structure Report where
  instructions : Counter64
  /-- Refreshes of the screen. -/
  frames : Counter32
  tones : Array Tone
  /-- Returns without an open call. -/
  underflows : Counter32
  frame : Option Frame
  deriving DecidableEq

namespace Report

def none : Report where
  instructions := .ofNat 0
  frames := .ofNat 0
  tones := #[]
  underflows := .ofNat 0
  frame := Option.none

def append (earlier later : Report) : Report where
  instructions := earlier.instructions + later.instructions
  frames := earlier.frames + later.frames
  tones := earlier.tones ++ later.tones
  underflows := earlier.underflows + later.underflows
  frame := later.frame.or earlier.frame

instance : Append Report := ⟨append⟩

private theorem append_eq (earlier later : Report) :
    earlier ++ later = earlier.append later := rfl

theorem append_none (report : Report) : report ++ none = report := by
  rw [append_eq]
  simp [append, none, Counter.add_zero]

theorem append_assoc (first second third : Report) :
    first ++ second ++ third = first ++ (second ++ third) := by
  simp only [append_eq, append, Counter.add_assoc, Array.append_assoc, Option.or_assoc]

end Report

end Chip8
