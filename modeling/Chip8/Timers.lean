set_option autoImplicit false

/-!
The delay timer and the sound timer. Both count down at every refresh of the screen, however
fast the machine runs. The sound timer reports the two edges that a sound device needs: a
tone starts when the timer leaves zero and stops when it comes back.
-/

namespace Chip8

inductive Tone where
  | start
  | stop
  deriving DecidableEq

structure Timers where
  delay : UInt8
  sound : UInt8
  deriving DecidableEq

namespace Timers

def idle : Timers :=
  ⟨0, 0⟩

/-- A tone is heard as long as the sound timer is not zero. -/
def isSounding (timers : Timers) : Bool :=
  timers.sound != 0

def setDelay (timers : Timers) (value : UInt8) : Timers :=
  { timers with delay := value }

/-- The edge between two values of the sound timer. -/
def edge (before after : UInt8) : Option Tone :=
  if before = 0 then
    if after = 0 then none else some .start
  else
    if after = 0 then some .stop else none

def setSound (timers : Timers) (value : UInt8) : Timers × Option Tone :=
  ({ timers with sound := value }, edge timers.sound value)

def countDown (value : UInt8) : UInt8 :=
  if value = 0 then 0 else value - 1

/-- One refresh: both timers count down, and the edge of the sound timer is told. -/
def decrement (timers : Timers) : Timers × Option Tone :=
  (⟨countDown timers.delay, countDown timers.sound⟩,
    edge timers.sound (countDown timers.sound))

end Timers

end Chip8
