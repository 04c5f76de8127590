import Chip8.Keypad

set_option autoImplicit false

/-!
What a look at the input devices tells the machine: whether to go on, and which keys went
down. The prepared input here is the simplest such device.
-/

namespace Chip8

inductive Control where
  | proceed
  | quit
  deriving DecidableEq

/-- An input that presses some keys when first asked and quits after a number of polls. -/
structure PreparedInput where
  keys : List UInt8
  polls : Nat

namespace PreparedInput

/-- One poll: the keys still waiting go down; the answer is to quit once no poll is left. -/
def poll (input : PreparedInput) (keypad : Keypad) : PreparedInput × Keypad × Control :=
  let pressed := input.keys.foldl Keypad.pressByte keypad
  match input.polls with
  | 0 => (⟨[], 0⟩, pressed, .quit)
  | polls + 1 => (⟨[], polls⟩, pressed, .proceed)

end PreparedInput

end Chip8
