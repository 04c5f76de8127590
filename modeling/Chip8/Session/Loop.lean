import Chip8.Session

set_option autoImplicit false

/-!
Passes in a row against a clock. Each pass starts with a reading of the clock and covers the
time since the reading before it, so no time is lost or counted twice however long a pass
takes. The loop ends with the first pass that fails or is told to quit, when the machine has
halted, or when a given number of passes is reached.
-/

namespace Chip8

/-- What the world brings to one pass: the reading of the clock at its start, in nanoseconds,
and the devices. -/
structure Pass where
  now : Nat
  devices : Devices

structure Loop where
  session : Session
  last : Nat
  passes : Nat

structure Passed where
  loop : Loop
  /-- The times that the passes covered, the first one first. -/
  covered : List Nat
  calls : List DeviceCall
  /-- How the loop ended, if it did. -/
  ending : Option (Except Fault Unit)

namespace Loop

def start (session : Session) (now : Nat) : Loop where
  session := session
  last := now
  passes := 0

def goesOn (loop : Loop) (limit : Option Nat) : Bool :=
  loop.session.isRunning && limit.all fun limit => loop.passes < limit

def endingOf : Except Fault Control → Option (Except Fault Unit)
  | .error fault => some (.error fault)
  | .ok .quit => some (.ok ())
  | .ok .proceed => none

def pass (loop : Loop) (world : Pass) : Passed :=
  let elapsed := world.now - loop.last
  let reply := loop.session.tick world.devices elapsed
  { loop := { session := reply.session, last := world.now, passes := loop.passes + 1 }
    covered := [elapsed]
    calls := reply.calls
    ending := endingOf reply.result }

def run (limit : Option Nat) (loop : Loop) : List Pass → Passed
  | [] =>
      { loop := loop
        covered := []
        calls := []
        ending := if loop.goesOn limit then none else some (.ok ()) }
  | world :: rest =>
      if loop.goesOn limit then
        let made := loop.pass world
        match made.ending with
        | some _ => made
        | none =>
            let later := run limit made.loop rest
            { later with
              covered := made.covered ++ later.covered
              calls := made.calls ++ later.calls }
      else
        { loop := loop
          covered := []
          calls := []
          ending := some (.ok ()) }

/-- The main loop of a session; without a machine it fails before the first pass. -/
def play (session : Session) (limit : Option Nat) (now : Nat) (passes : List Pass) : Passed :=
  if session.isLoaded then run limit (Loop.start session now) passes
  else
    { loop := Loop.start session now
      covered := []
      calls := []
      ending := some (.error .notLoaded) }

end Loop

end Chip8
