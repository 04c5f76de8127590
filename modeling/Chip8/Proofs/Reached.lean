import Chip8.Pacer

set_option autoImplicit false

/-!
The pacers and machines that a program can come to: a freshly loaded machine at the start of its
time, and then time that goes by, keys that go down and up, and stops from outside, in any order.

Main statement: the slots granted so far are always those that the rate grants in the time so far.
-/

namespace Chip8
namespace Pacer

def OnTime (pacer : Pacer) : Prop :=
  pacer.granted = slotsBy pacer.rate pacer.clock

/-- A pacer and a machine that time and keys bring about from a freshly loaded program. -/
inductive Reached : Pacer → Machine → Prop where
  | fresh (rate : UInt32) (profile : Profile) (filter : Filter) (tape : Tape)
      (source : ProgramSource) (machine : Machine) (length : Nat)
      (loaded : (Machine.ofProfile profile filter tape).load source = (machine, .ok length)) :
      Reached (ofRate rate) machine
  | ticked (pacer : Pacer) (machine : Machine) (nanoseconds : Nat)
      (reached : Reached pacer machine) :
      Reached (pacer.tick machine nanoseconds).pacer (pacer.tick machine nanoseconds).machine
  | keyed (pacer : Pacer) (machine : Machine) (keypad : Keypad)
      (reached : Reached pacer machine) : Reached pacer { machine with keypad := keypad }
  | stopped (pacer : Pacer) (machine : Machine)
      (reached : Reached pacer machine) : Reached pacer.stop machine

theorem onTime_ofRate (rate : UInt32) : (ofRate rate).OnTime := by
  change 0 = (500000000 + 0 * (max rate 1).toNat) / 1000000000
  rw [Nat.zero_mul]

theorem onTime_runThrough (refreshes : Nat) (pacer : Pacer) (machine : Machine) (report : Report)
    (nanoseconds : Nat) :
    (pacer.runThrough machine report nanoseconds refreshes).pacer.OnTime := by
  induction refreshes generalizing pacer machine report nanoseconds with
  | zero =>
      rw [runThrough]
      rcases pacer.runFor nanoseconds machine report with ⟨run, fault⟩
      rfl
  | succ refreshes ih =>
      rw [runThrough]
      rcases pacer.runFor pacer.untilRefresh machine report with ⟨run, fault⟩
      cases fault with
      | some fault => rfl
      | none =>
          simp only
          split
          · exact ih _ _ _ _
          · rfl

theorem OnTime.tick {pacer : Pacer} (onTime : pacer.OnTime) (machine : Machine)
    (nanoseconds : Nat) : (pacer.tick machine nanoseconds).pacer.OnTime := by
  unfold Pacer.tick
  split
  · exact onTime_runThrough _ _ _ _ _
  · exact onTime

theorem Reached.onTime {pacer : Pacer} {machine : Machine} (reached : pacer.Reached machine) :
    pacer.OnTime := by
  induction reached with
  | fresh rate profile filter tape source machine length loaded => exact onTime_ofRate rate
  | ticked pacer machine nanoseconds reached ih => exact ih.tick machine nanoseconds
  | keyed pacer machine keypad reached ih => exact ih
  | stopped pacer machine reached ih => exact ih

end Pacer
end Chip8
