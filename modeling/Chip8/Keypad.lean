import Chip8.Address

set_option autoImplicit false

/-!
The hexadecimal keypad as the machine sees it: for each of the sixteen keys, whether it is
down. A press that the program has taken is removed, so that it is not taken twice.
-/

namespace Chip8

structure Keypad where
  down : Vector Bool 16
  deriving DecidableEq

namespace Keypad

def idle : Keypad :=
  ⟨Vector.replicate 16 false⟩

def isDown (keypad : Keypad) (key : Key) : Bool :=
  keypad.down[key]

def press (keypad : Keypad) (key : Key) : Keypad :=
  ⟨keypad.down.set key true⟩

def release (keypad : Keypad) (key : Key) : Keypad :=
  ⟨keypad.down.set key false⟩

/-- Presses the key of a number; numbers past F name no key and change nothing. -/
def pressByte (keypad : Keypad) (value : UInt8) : Keypad :=
  match Key.ofByte? value with
  | some key => keypad.press key
  | none => keypad

def releaseByte (keypad : Keypad) (value : UInt8) : Keypad :=
  match Key.ofByte? value with
  | some key => keypad.release key
  | none => keypad

def pressed (keypad : Keypad) : List Key :=
  (List.finRange 16).filter keypad.isDown

def lowest? (keypad : Keypad) : Option Key :=
  (List.finRange 16).find? keypad.isDown

/-- Takes the lowest key that is down: the key, and the keypad with it released. -/
def take? (keypad : Keypad) : Option (Key × Keypad) :=
  keypad.lowest?.map fun key => (key, keypad.release key)

theorem isDown_idle (key : Key) : idle.isDown key = false := by
  simp [idle, isDown]

theorem isDown_press (keypad : Keypad) (pressedKey key : Key) :
    (keypad.press pressedKey).isDown key = (decide (pressedKey = key) || keypad.isDown key) := by
  by_cases same : pressedKey = key
  · subst same
    simp [press, isDown]
  · have different : pressedKey.val ≠ key.val := fun equal => same (Fin.ext equal)
    simp [press, isDown, same, Vector.getElem_set_ne, different]

theorem isDown_release (keypad : Keypad) (releasedKey key : Key) :
    (keypad.release releasedKey).isDown key =
      (!decide (releasedKey = key) && keypad.isDown key) := by
  by_cases same : releasedKey = key
  · subst same
    simp [release, isDown]
  · have different : releasedKey.val ≠ key.val := fun equal => same (Fin.ext equal)
    simp [release, isDown, same, Vector.getElem_set_ne, different]

end Keypad

end Chip8
