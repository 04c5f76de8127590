import Chip8.Proofs.Moments

set_option autoImplicit false

/-!
Whole runs of a machine: stretches of time, with keys that go down and up in between. `follow` is
the run as it goes, one event after the other, and `moments` lists all that comes up on the way.

Main statement: `unfolds`, each moment of the whole run finds what the one before it left.
-/

namespace Chip8

/-- A measure of the members of a list, added up. -/
def total {α : Type} (measure : α → Nat) : List α → Nat
  | [] => 0
  | first :: rest => measure first + total measure rest

theorem total_append {α : Type} (measure : α → Nat) (earlier later : List α) :
    total measure (earlier ++ later) = total measure earlier + total measure later := by
  induction earlier with
  | nil => exact (Nat.zero_add _).symm
  | cons first rest ih => rw [List.cons_append, total, ih, total, Nat.add_assoc]

theorem le_total {α : Type} (measure : α → Nat) {members : List α} {member : α}
    (present : member ∈ members) : measure member ≤ total measure members := by
  induction members with
  | nil => cases present
  | cons first rest ih =>
      rcases List.mem_cons.mp present with rfl | behind
      · exact Nat.le_add_right _ _
      · exact Nat.le_trans (ih behind) (Nat.le_add_left _ _)

/-- What happens to a machine from outside. Keys come as bytes; those past F change nothing. -/
inductive Event where
  | elapse (nanoseconds : Nat)
  | press (key : UInt8)
  | release (key : UInt8)
  deriving DecidableEq

namespace Event

def duration : Event → Nat
  | .elapse nanoseconds => nanoseconds
  | _ => 0

end Event

/-- A pacer and a machine on their way, with what every stretch of time has come to so far. -/
structure Course where
  pacer : Pacer
  machine : Machine
  results : List (Except Fault Report)

namespace Course

/-- A machine with a program at the start of its time. -/
def boot (rate : UInt32) (profile : Profile) (filter : Filter) (tape : Tape)
    (source : ProgramSource) : Course :=
  ⟨.ofRate rate, ((Machine.ofProfile profile filter tape).load source).1, []⟩

def run (course : Course) : Run :=
  course.pacer.runOf course.machine

def meet (course : Course) : Event → Course
  | .elapse nanoseconds =>
      let ticked := course.pacer.tick course.machine nanoseconds
      ⟨ticked.pacer, ticked.machine, course.results ++ [ticked.result]⟩
  | .press key =>
      { course with
        machine := { course.machine with keypad := course.machine.keypad.pressByte key } }
  | .release key =>
      { course with
        machine := { course.machine with keypad := course.machine.keypad.releaseByte key } }

def follow (course : Course) (events : List Event) : Course :=
  events.foldl meet course

/-- The time that passes in a list of events. -/
def elapsed (events : List Event) : Nat :=
  total Event.duration events

def momentsOf (course : Course) : Event → List Moment
  | .elapse nanoseconds => course.pacer.moments course.machine nanoseconds
  | .press key => [.press key course.run]
  | .release key => [.release key course.run]

/-- All that comes up in a list of events. -/
def moments (course : Course) : List Event → List Moment
  | [] => []
  | event :: rest => course.momentsOf event ++ (course.meet event).moments rest

/-! ### One event -/

theorem unfolds_momentsOf (course : Course) (event : Event) :
    Unfolds course.run (course.momentsOf event) (course.meet event).run := by
  cases event with
  | elapse nanoseconds => exact course.pacer.unfolds_moments course.machine nanoseconds
  | press key => exact .cons _ _ _ _ rfl (.nil _)
  | release key => exact .cons _ _ _ _ rfl (.nil _)

theorem onTime_meet {course : Course} (onTime : course.pacer.OnTime) (event : Event) :
    (course.meet event).pacer.OnTime := by
  cases event with
  | elapse nanoseconds => exact onTime.tick course.machine nanoseconds
  | press key => exact onTime
  | release key => exact onTime

theorem halted_meet {course : Course} (halted : course.pacer.state = .halted) (event : Event) :
    (course.meet event).pacer.state = .halted := by
  cases event with
  | elapse nanoseconds =>
      rw [meet, Pacer.tick_of_halted halted]
      exact halted
  | press key => exact halted
  | release key => exact halted

/-! ### Whole runs -/

theorem unfolds (course : Course) (events : List Event) :
    Unfolds course.run (course.moments events) (course.follow events).run := by
  induction events generalizing course with
  | nil => exact .nil _
  | cons event rest ih => exact (course.unfolds_momentsOf event).append (ih (course.meet event))

theorem onTime_follow {course : Course} (onTime : course.pacer.OnTime) (events : List Event) :
    (course.follow events).pacer.OnTime := by
  induction events generalizing course with
  | nil => exact onTime
  | cons event rest ih => exact ih (onTime_meet onTime event)

theorem halted_follow {course : Course} (halted : course.pacer.state = .halted)
    (events : List Event) : (course.follow events).pacer.state = .halted := by
  induction events generalizing course with
  | nil => exact halted
  | cons event rest ih => exact ih (halted_meet halted event)

theorem onTime_boot (rate : UInt32) (profile : Profile) (filter : Filter) (tape : Tape)
    (source : ProgramSource) : (boot rate profile filter tape source).pacer.OnTime :=
  Pacer.onTime_ofRate rate

end Course
end Chip8
