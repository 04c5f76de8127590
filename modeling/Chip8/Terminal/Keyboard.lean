import Chip8.Control

set_option autoImplicit false

/-!
Typed characters as presses of the keypad. A terminal tells when a key is pressed and never
when it is released, so each press holds its key down for six polls. The keypad is the left
part of a keyboard, four keys in each of four rows.
-/

namespace Chip8.Terminal

inductive KeyEvent where
  | character (typed : Char)
  | escape
  /-- Another key, or no key at all. -/
  | other
  | failure (text : String)
  deriving DecidableEq

/-- The keypad's key for a character; capitals count as small letters. -/
def keyOf? (typed : Char) : Option Key :=
  match typed.toLower with
  | '1' => some 0x1
  | '2' => some 0x2
  | '3' => some 0x3
  | '4' => some 0xC
  | 'q' => some 0x4
  | 'w' => some 0x5
  | 'e' => some 0x6
  | 'r' => some 0xD
  | 'a' => some 0x7
  | 's' => some 0x8
  | 'd' => some 0x9
  | 'f' => some 0xE
  | 'z' => some 0xA
  | 'x' => some 0x0
  | 'c' => some 0xB
  | 'v' => some 0xF
  | _ => none

/-- For how many polls a press holds its key down. -/
def holdLength : Nat := 6

/-- For each key, for how many polls it is still held. -/
structure Keyboard where
  held : Vector Nat 16
  deriving DecidableEq

/-- What a poll leaves behind: the events after the one that ended it are kept for the next. -/
structure Polled where
  keyboard : Keyboard
  keypad : Keypad
  waiting : List KeyEvent
  answer : Except String Control

namespace Keyboard

def idle : Keyboard :=
  ⟨Vector.replicate 16 0⟩

/-- The keypad without the keys whose hold ends now. -/
def releaseExpired (keyboard : Keyboard) (keypad : Keypad) : Keypad :=
  (List.finRange 16).foldl
    (fun keypad key => if keyboard.held.get key = 1 then keypad.release key else keypad) keypad

def countDown (keyboard : Keyboard) : Keyboard :=
  ⟨keyboard.held.map fun polls => polls - 1⟩

/-- A press holds its key for its full time, counted from now. -/
def hold (keyboard : Keyboard) (key : Key) : Keyboard :=
  ⟨Vector.ofFn fun other => if other = key then holdLength else keyboard.held.get other⟩

/-- Takes events in order until the escape key, a failure or the end. -/
def takeEvents (keyboard : Keyboard) (keypad : Keypad) : List KeyEvent → Polled
  | [] => { keyboard := keyboard, keypad := keypad, waiting := [], answer := .ok .proceed }
  | .failure text :: rest =>
      { keyboard := keyboard, keypad := keypad, waiting := rest, answer := .error text }
  | .escape :: rest =>
      { keyboard := keyboard, keypad := keypad, waiting := rest, answer := .ok .quit }
  | .other :: rest => takeEvents keyboard keypad rest
  | .character typed :: rest =>
      match keyOf? typed with
      | none => takeEvents keyboard keypad rest
      | some key => takeEvents (keyboard.hold key) (keypad.press key) rest

def poll (keyboard : Keyboard) (keypad : Keypad) (events : List KeyEvent) : Polled :=
  takeEvents keyboard.countDown (keyboard.releaseExpired keypad) events

end Keyboard

end Chip8.Terminal
