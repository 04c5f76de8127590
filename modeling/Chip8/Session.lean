import Chip8.Control
import Chip8.Pacer

set_option autoImplicit false

/-!
A session at the machine: loading programs, starting them again, stopping them, and passes in
which the input is asked, time goes by, and tones and pictures go to their devices. Every load
and every restart builds a new machine, so nothing is carried from one program to the next. Only
the tape of random bytes goes on: the next machine reads behind what the last one has read.

A session is a pure value. What it asks of its devices is returned as a list of calls, and
what they answer is given to it. Tones are sent without waiting for an answer: a sound device
that fails does not disturb the program.
-/

namespace Chip8

structure Engine where
  machine : Machine
  pacer : Pacer
  /-- Returns without an open call since the program was loaded. -/
  underflows : Counter32

/-- A program that was loaded without a fault. -/
structure Program where
  image : List UInt8
  profile : Profile

structure Session where
  filter : Filter
  /-- Where the next machine's random bytes come from. While one is loaded, it has the tape. -/
  tape : Tape
  engine : Option Engine
  /-- The last program that was loaded without a fault. -/
  program : Option Program

inductive DeviceCall where
  /-- The input was asked and left the keypad in this state. -/
  | poll (keypad : Keypad)
  | tone (tone : Tone)
  | draw (frame : Frame)
  deriving DecidableEq

structure Devices where
  /-- The input's effect on the keypad, and its answer or the failure of the device. -/
  poll : Keypad → Keypad × Except String Control
  /-- The failure with which the screen device answers to a picture, if it fails. -/
  draw : Frame → Option String

structure Reply (α : Type) where
  session : Session
  calls : List DeviceCall
  result : Except Fault α

namespace Session

def start (filter : Filter) (tape : Tape) : Session where
  filter := filter
  tape := tape
  engine := none
  program := none

def isLoaded (session : Session) : Bool :=
  session.engine.isSome

def isRunning (session : Session) : Bool :=
  session.engine.any fun engine => engine.pacer.isRunning

def underflows (session : Session) : Counter32 :=
  (session.engine.map Engine.underflows).getD (.ofNat 0)

def silence (machine : Machine) : List DeviceCall :=
  if machine.timers.isSounding then [.tone .stop] else []

/-- Drops the machine and takes back its tape. -/
def unload (session : Session) : Session × List DeviceCall :=
  match session.engine with
  | none => (session, [])
  | some engine =>
      ({ session with engine := none, tape := engine.machine.tape }, silence engine.machine)

def boot (session : Session) (program : Program) : Except Fault (Engine × Nat) :=
  let machine := Machine.ofProfile program.profile session.filter session.tape
  match machine.load { bytes := program.image, failure := none } with
  | (_, .error fault) => .error fault
  | (machine, .ok length) =>
      .ok
        ({ machine := machine
           pacer := Pacer.ofRate program.profile.rate
           underflows := .ofNat 0 },
          length)

/-- Replaces the program and tells the length of the new one. After a fault nothing is loaded,
but the last good program can still be started again. -/
def load (session : Session) (source : ProgramSource) (profile : Profile) : Reply Nat :=
  let (unloaded, calls) := session.unload
  match source.read with
  | .error fault => { session := unloaded, calls := calls, result := .error fault }
  | .ok image =>
      let program : Program := { image := image, profile := profile }
      match unloaded.boot program with
      | .error fault => { session := unloaded, calls := calls, result := .error fault }
      | .ok (engine, length) =>
          { session := { unloaded with engine := some engine, program := some program }
            calls := calls
            result := .ok length }

def reset (session : Session) : Reply Unit :=
  match session.program with
  | none => { session := session, calls := [], result := .error .notLoaded }
  | some program =>
      let (unloaded, calls) := session.unload
      match unloaded.boot program with
      | .error fault =>
          { session := { unloaded with program := none }, calls := calls, result := .error fault }
      | .ok (engine, _) =>
          { session := { unloaded with engine := some engine }, calls := calls, result := .ok () }

/-- Halts the machine for good and silences it; the program stays loaded. -/
def stop (session : Session) : Session × List DeviceCall :=
  match session.engine with
  | none => (session, [])
  | some engine =>
      ({ session with engine := some { engine with pacer := engine.pacer.stop } },
        silence engine.machine)

def toneCalls (report : Report) : List DeviceCall :=
  report.tones.toList.map DeviceCall.tone

def showFrame (devices : Devices) (report : Report) : List DeviceCall × Except Fault Control :=
  match report.frame with
  | none => ([], .ok .proceed)
  | some frame =>
      match devices.draw frame with
      | none => ([.draw frame], .ok .proceed)
      | some failure => ([.draw frame], .error (.device failure))

/-- Lets time go by for a machine whose input has been asked. -/
def runEngine (session : Session) (devices : Devices) (engine : Engine) (elapsed : Nat) :
    Reply Control :=
  let ticked := engine.pacer.tick engine.machine elapsed
  let ran := { engine with machine := ticked.machine, pacer := ticked.pacer }
  match ticked.result with
  | .error fault =>
      let (stopped, calls) := { session with engine := some ran }.stop
      { session := stopped, calls := calls, result := .error fault }
  | .ok report =>
      let counted := { ran with underflows := ran.underflows + report.underflows }
      let (drawCalls, result) := showFrame devices report
      { session := { session with engine := some counted }
        calls := toneCalls report ++ drawCalls
        result := result }

/-- One pass: the input is asked, then time goes by, then tones and the latest picture go to
their devices. A wish to quit stops the machine before any time goes by. -/
def tick (session : Session) (devices : Devices) (elapsed : Nat) : Reply Control :=
  match session.engine with
  | none => { session := session, calls := [], result := .error .notLoaded }
  | some engine =>
      let (keypad, answer) := devices.poll engine.machine.keypad
      let polled := { engine with machine := { engine.machine with keypad := keypad } }
      let asked := { session with engine := some polled }
      match answer with
      | .error failure =>
          { session := asked, calls := [.poll keypad], result := .error (.device failure) }
      | .ok .quit =>
          let (stopped, calls) := asked.stop
          { session := stopped, calls := .poll keypad :: calls, result := .ok .quit }
      | .ok .proceed =>
          let reply := asked.runEngine devices polled elapsed
          { reply with calls := .poll keypad :: reply.calls }

end Session

end Chip8
