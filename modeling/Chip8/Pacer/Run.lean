import Chip8.Machine.Execute
import Chip8.Pacer.Report

set_option autoImplicit false

/-!
A machine on the go: what it is doing, its state, and the report so far. Time reaches it as
slots, each good for one instruction or for the end of a wait for a key, and as refreshes.
Slots that come up while it waits are lost.
-/

namespace Chip8

inductive RunState where
  | running
  /-- It waits for a key, which then goes into a register. -/
  | awaitingKey (x : Register)
  /-- It waits for the next refresh, which draws a sprite. -/
  | awaitingRefresh (request : DrawRequest)
  | halted
  deriving DecidableEq

structure Run where
  state : RunState
  machine : Machine
  report : Report

namespace Run

def instructionReport (tone : Option Tone) (underflows : Nat) : Report where
  instructions := .ofNat 1
  frames := .ofNat 0
  tones := tone.toList.toArray
  underflows := .ofNat underflows
  frame := none

def toneReport (tone : Option Tone) : Report :=
  { Report.none with tones := tone.toList.toArray }

/-- The program has ended by itself: its tone stops and the machine halts. -/
def finish (run : Run) : Run :=
  let (timers, edge) := run.machine.timers.setSound 0
  { state := .halted
    machine := { run.machine with timers := timers }
    report := run.report ++ toneReport edge }

def follow (run : Run) : Outcome → Run
  | .proceed => run
  | .underflow => run
  | .awaitKey x => { run with state := .awaitingKey x }
  | .awaitRefresh request => { run with state := .awaitingRefresh request }
  | .exit => run.finish

def underflowsOf : Outcome → Nat
  | .underflow => 1
  | _ => 0

/-- Carries out one instruction. A fault halts the machine. -/
def execute (run : Run) : Run × Option Fault :=
  match run with
  | ⟨state, machine, report⟩ =>
      match machine.step with
      | (machine, .error fault) => (⟨.halted, machine, report⟩, some fault)
      | (machine, .ok outcome) =>
          let (machine, edge) := machine.takeTone
          let report := report ++ instructionReport edge (underflowsOf outcome)
          (follow ⟨state, machine, report⟩ outcome, none)

/-- Uses up a number of slots, until one is reached that nothing can use. -/
def useSlots : Nat → Run → Run × Option Fault
  | 0, run => (run, none)
  | slots + 1, run =>
      match run.state with
      | .halted => (run, none)
      | .awaitingRefresh _ => (run, none)
      | .awaitingKey x =>
          match run.machine.takeKey? x with
          | none => (run, none)
          | some machine => useSlots slots { run with state := .running, machine := machine }
      | .running =>
          match run.execute with
          | (run, some fault) => (run, some fault)
          | (run, none) => useSlots slots run

def drawWaiting (run : Run) : Run :=
  match run.state with
  | .awaitingRefresh request =>
      { run with state := .running, machine := run.machine.drawSprite request }
  | _ => run

def refreshReport (edge : Option Tone) (frame : Frame) : Report where
  instructions := .ofNat 0
  frames := .ofNat 1
  tones := edge.toList.toArray
  underflows := .ofNat 0
  frame := some frame

/-- One refresh: the timers count down, the waiting sprite is drawn, the picture is taken,
and then the glow of points that went off gets shorter. -/
def refresh (run : Run) : Run :=
  let (timers, edge) := run.machine.timers.decrement
  let drawn := { run with machine := { run.machine with timers := timers } }.drawWaiting
  { drawn with
    machine := { drawn.machine with screen := drawn.machine.screen.age }
    report := drawn.report ++ refreshReport edge drawn.machine.screen.frame }

end Run

end Chip8
