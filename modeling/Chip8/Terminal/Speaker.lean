import Chip8.Timers

set_option autoImplicit false

/-!
Devices for the tone. A speaker is called only when it has to change: it is given the pitch
when a tone starts and zero when it stops. A call that fails leaves it as it was, so that the
next edge tries again.
-/

namespace Chip8.Terminal

/-- The pitch of the tone in hertz, the C three octaves above middle C. -/
def pitch : Nat := 2093

inductive Speaker where
  | beeper (isBeeping : Bool)
  | mute
  | recorder (edges : List Tone)
  deriving DecidableEq

/-- What an edge did: the frequencies sent to the hardware, and the failure if there was one. -/
structure Sounded where
  speaker : Speaker
  frequencies : List Nat
  result : Except String Unit

namespace Speaker

def send (before after : Speaker) (frequency : Nat) : Option String → Sounded
  | none => { speaker := after, frequencies := [frequency], result := .ok () }
  | some failure => { speaker := before, frequencies := [frequency], result := .error failure }

def sound (speaker : Speaker) (failure : Option String) (tone : Tone) : Sounded :=
  match speaker, tone with
  | .beeper false, .start => send speaker (.beeper true) pitch failure
  | .beeper true, .stop => send speaker (.beeper false) 0 failure
  | .beeper _, _ => { speaker := speaker, frequencies := [], result := .ok () }
  | .mute, _ => { speaker := speaker, frequencies := [], result := .ok () }
  | .recorder edges, tone =>
      { speaker := .recorder (edges ++ [tone]), frequencies := [], result := .ok () }

/-- The frequencies sent when the device is given back. -/
def release : Speaker → List Nat
  | .beeper true => [0]
  | _ => []

def recorded : Speaker → List Tone
  | .recorder edges => edges
  | _ => []

end Speaker

end Chip8.Terminal
