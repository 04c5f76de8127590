import Chip8.Pacer.Run

set_option autoImplicit false

/-!
The pace of a machine. A pacer turns elapsed nanoseconds into slots for instructions and into
refreshes of the screen. The number of slots granted so far is always the elapsed time times
the rate, rounded to the nearest number; counting from the start, and not piece by piece,
keeps the rounding from adding up. Refreshes come sixty times a second at any rate.
-/

namespace Chip8

/-- Nanoseconds from one refresh to the next. -/
abbrev refreshInterval : Nat := 16666667

structure Pacer where
  /-- Instructions per second. -/
  rate : UInt32
  state : RunState
  /-- Nanoseconds since the start. -/
  clock : Nat
  /-- Nanoseconds since the last refresh. -/
  sinceRefresh : Fin refreshInterval
  /-- Slots granted since the start. -/
  granted : Nat

structure Ticked where
  pacer : Pacer
  machine : Machine
  result : Except Fault Report

namespace Pacer

/-- A pacer at its start; no rate is below one. -/
def ofRate (rate : UInt32) : Pacer where
  rate := max rate 1
  state := .running
  clock := 0
  sinceRefresh := 0
  granted := 0

/-- A machine that waits is still running; only a halted one is not. -/
def isRunning (pacer : Pacer) : Bool :=
  pacer.state != .halted

def stop (pacer : Pacer) : Pacer :=
  { pacer with state := .halted }

/-- The slots that a rate grants in a time from the start, rounded to the nearest number. -/
def slotsBy (rate : UInt32) (nanoseconds : Nat) : Nat :=
  (500000000 + nanoseconds * rate.toNat) / 1000000000

def untilRefresh (pacer : Pacer) : Nat :=
  refreshInterval - pacer.sinceRefresh.val

def refreshesIn (pacer : Pacer) (nanoseconds : Nat) : Nat :=
  (pacer.sinceRefresh.val + nanoseconds) / refreshInterval

def elapse (pacer : Pacer) (nanoseconds : Nat) : Pacer :=
  { pacer with
    clock := pacer.clock + nanoseconds
    sinceRefresh := pacer.sinceRefresh + Fin.ofNat refreshInterval nanoseconds
    granted := slotsBy pacer.rate (pacer.clock + nanoseconds) }

def slotsIn (pacer : Pacer) (nanoseconds : Nat) : Nat :=
  slotsBy pacer.rate (pacer.clock + nanoseconds) - pacer.granted

/-- Runs the machine for a time in which no refresh comes up but perhaps at its end. -/
def runFor (pacer : Pacer) (nanoseconds : Nat) (machine : Machine) (report : Report) :
    Run × Option Fault :=
  Run.useSlots (pacer.slotsIn nanoseconds) ⟨pacer.state, machine, report⟩

/-- Runs the machine up to each of a number of refreshes, and then for the time that is left. -/
def runThrough (pacer : Pacer) (machine : Machine) (report : Report) (nanoseconds : Nat) :
    Nat → Ticked
  | 0 =>
      match pacer.runFor nanoseconds machine report with
      | (run, fault) =>
          { pacer := { pacer.elapse nanoseconds with state := run.state }
            machine := run.machine
            result := match fault with
              | none => .ok run.report
              | some fault => .error fault }
  | refreshes + 1 =>
      match pacer.runFor pacer.untilRefresh machine report with
      | (run, some fault) =>
          { pacer := { pacer.elapse pacer.untilRefresh with state := run.state }
            machine := run.machine
            result := .error fault }
      | (run, none) =>
          let refreshed := run.refresh
          let later := { pacer.elapse pacer.untilRefresh with state := refreshed.state }
          if later.isRunning then
            later.runThrough refreshed.machine refreshed.report
              (nanoseconds - pacer.untilRefresh) refreshes
          else { pacer := later, machine := refreshed.machine, result := .ok refreshed.report }

/-- Lets time go by. A halted machine takes no notice of it. -/
def tick (pacer : Pacer) (machine : Machine) (nanoseconds : Nat) : Ticked :=
  if pacer.isRunning then
    pacer.runThrough machine Report.none nanoseconds (pacer.refreshesIn nanoseconds)
  else { pacer := pacer, machine := machine, result := .ok Report.none }

end Pacer

end Chip8
