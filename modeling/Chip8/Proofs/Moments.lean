import Chip8.Proofs.Footprint
import Chip8.Proofs.Slicing

set_option autoImplicit false

/-!
What comes up while time goes by, one moment after the other. A moment is a slot, a refresh or a
key that changes, together with the run that it finds; slots that nothing can use are moments too.

`Passes` tells how a stretch of time goes from refresh to refresh. By induction on it, each moment
finds what the one before it left (`unfolds_moments`), and what a report counts moment by moment it
has counted at the end (`counted_tick`): the instructions and the refreshes, to begin with.
-/

namespace Chip8

/-- The machine behind a wait for a key that has ended with this key. -/
def Machine.takeKey (machine : Machine) (x : Register) (key : Key) : Machine :=
  { machine with keypad := machine.keypad.release key }.setRegister x (UInt8.ofNat key.val)

theorem Machine.takeKey?_eq (machine : Machine) (x : Register) :
    machine.takeKey? x = machine.keypad.lowest?.map (machine.takeKey x) := by
  rw [Machine.takeKey?, Keypad.take?, Option.map_map]
  rfl

theorem Run.slot?_of_awaitingRefresh {run : Run} {request : DrawRequest}
    (waits : run.state = .awaitingRefresh request) : run.slot? = none := by
  unfold slot?
  rw [waits]

/-- A run without what it reported before. -/
def Run.unreported (run : Run) : Run :=
  { run with report := Report.none }

inductive Moment where
  | slot (found : Run)
  | refresh (found : Run)
  | press (key : UInt8) (found : Run)
  | release (key : UInt8) (found : Run)

namespace Moment

def found : Moment → Run
  | .slot run | .refresh run | .press _ run | .release _ run => run

/-- The run behind a moment. A slot that nothing can use changes nothing. -/
def after : Moment → Run
  | .slot run =>
      match run.slot? with
      | none => run.unreported
      | some (later, _) => later.unreported
  | .refresh run => run.refresh.unreported
  | .press key run =>
      ⟨run.state, { run.machine with keypad := run.machine.keypad.pressByte key }, Report.none⟩
  | .release key run =>
      ⟨run.state, { run.machine with keypad := run.machine.keypad.releaseByte key }, Report.none⟩

def isSlot : Moment → Bool
  | .slot _ => true
  | _ => false

def isRefresh : Moment → Bool
  | .refresh _ => true
  | _ => false

/-- A slot that goes to an instruction. -/
def isStep : Moment → Bool
  | .slot run => run.state = .running
  | _ => false

theorem eq_slot {moment : Moment} (isSlot : moment.isSlot = true) :
    moment = .slot moment.found := by
  cases moment <;> first | rfl | cases isSlot

theorem eq_refresh {moment : Moment} (isRefresh : moment.isRefresh = true) :
    moment = .refresh moment.found := by
  cases moment <;> first | rfl | cases isRefresh

theorem isSlot_of_isStep {moment : Moment} (isStep : moment.isStep = true) :
    moment.isSlot = true := by
  cases moment with
  | slot run => rfl
  | refresh run => cases isStep
  | press key run => cases isStep
  | release key run => cases isStep

theorem after_of_blocked {run : Run} (blocked : run.slot? = none) :
    (Moment.slot run).after = run.unreported := by
  rw [after, blocked]

theorem after_of_awaitingKey {run : Run} {x : Register} (waits : run.state = .awaitingKey x) :
    (Moment.slot run).after =
      match run.machine.keypad.lowest? with
      | none => run.unreported
      | some key => ⟨.running, run.machine.takeKey x key, Report.none⟩ := by
  rw [after, Run.slot?, waits]
  simp only [Machine.takeKey?_eq, Option.map_map]
  cases run.machine.keypad.lowest? <;> rfl

/-- A slot at which the machine does not run is lost or ends a wait for a key. -/
theorem sameBut_after_of_wait {run : Run} (waits : run.state ≠ .running) :
    (Moment.slot run).after.machine.SameBut [.keypad, .registers] run.machine := by
  have unchanged : run.unreported.machine.SameBut [.keypad, .registers] run.machine :=
    Machine.sameBut_of_takeOver rfl
  cases state : run.state with
  | running => exact absurd state waits
  | halted =>
      rw [after_of_blocked (Run.slot?_of_halted state)]
      exact unchanged
  | awaitingRefresh request =>
      rw [after_of_blocked (Run.slot?_of_awaitingRefresh state)]
      exact unchanged
  | awaitingKey x =>
      rw [after_of_awaitingKey state]
      cases run.machine.keypad.lowest? with
      | none => exact unchanged
      | some key => exact Machine.sameBut_of_takeOver rfl

/-- A slot that goes to an instruction takes the machine one step further. The tone and the timers
are left out because the tone goes to the report and the end of a program silences the machine. -/
theorem sameIn_step_after {moment : Moment} (isStep : moment.isStep = true) (part : Part)
    (apart : part ∉ [.timers, .tone]) :
    moment.after.machine.SameIn moment.found.machine.step.1 part := by
  cases moment with
  | slot run =>
      have runs : run.state = .running := of_decide_eq_true isStep
      rw [after, found]
      cases used : run.slot? with
      | none =>
          rw [Run.slot?, runs] at used
          cases used
      | some outcome =>
          rcases outcome with ⟨later, fault⟩
          cases Run.slotUse_of_slot? used with
          | took x machine waits found =>
              rw [runs] at waits
              cases waits
          | failed stepped fault runs step =>
              rw [step]
              cases part <;> rfl
          | carried stepped outcome runs step =>
              rw [step]
              cases outcome <;> cases part <;> first | rfl | exact absurd (by decide) apart
  | refresh run => cases isStep
  | press key run => cases isStep
  | release key run => cases isStep

/-- What comes up besides instructions changes neither the program and its place nor the flags. -/
theorem sameBut_after_of_noStep {moment : Moment} (noStep : moment.isStep = false) :
    moment.after.machine.SameBut [.screen, .timers, .keypad, .registers]
      moment.found.machine := by
  have keypadOnly (run : Run) (keypad : Keypad) :
      Machine.SameBut [.keypad] { run.machine with keypad := keypad } run.machine :=
    Machine.sameBut_of_takeOver rfl
  cases moment with
  | slot run =>
      have waits : run.state ≠ .running := of_decide_eq_false noStep
      exact (sameBut_after_of_wait waits).mono (by decide)
  | refresh run =>
      rcases run with ⟨state, machine, report⟩
      intro part untouched
      cases state <;> cases part <;> first | rfl | exact absurd (by decide) untouched
  | press key run => exact (keypadOnly run _).mono (by decide)
  | release key run => exact (keypadOnly run _).mono (by decide)

/-- A part that no instruction lists stays as it is at every moment, unless it is one of those
that moments besides instructions change. -/
theorem sameIn_after (moment : Moment) (part : Part)
    (apart : part ∉ [.pc, .screen, .timers, .tone, .keypad, .registers])
    (unlisted : ∀ instruction : Instruction, part ∉ instruction.changes) :
    moment.after.machine.SameIn moment.found.machine part := by
  cases isStep : moment.isStep with
  | false => exact (sameBut_after_of_noStep isStep).mono (by decide) part apart
  | true =>
      have notPc : part ≠ .pc := by
        rintro rfl
        exact apart (by decide)
      have within : ([.timers, .tone] : List Part) ⊆
          [.pc, .screen, .timers, .tone, .keypad, .registers] := by
        decide
      have stepped := sameIn_step_after isStep part fun listed => apart (within listed)
      exact stepped.trans (moment.found.machine.step_sameIn notPc unlisted)

theorem platform_after (moment : Moment) :
    moment.after.machine.platform = moment.found.machine.platform :=
  moment.sameIn_after .platform (by decide) fun instruction => by
    cases instruction <;> simp [Instruction.changes]

theorem dialect_after (moment : Moment) :
    moment.after.machine.dialect = moment.found.machine.dialect :=
  moment.sameIn_after .dialect (by decide) fun instruction => by
    cases instruction <;> simp [Instruction.changes]

theorem countP_cons (holds : Moment → Bool) (moment : Moment) (rest : List Moment) :
    (moment :: rest).countP holds = (holds moment).toNat + rest.countP holds := by
  rw [List.countP_cons, Nat.add_comm]
  cases holds moment <;> rfl

end Moment

/-- The moments that lead from one run to another, each of which finds what the one before it
left behind. -/
inductive Unfolds : Run → List Moment → Run → Prop where
  | nil (run : Run) : Unfolds run [] run
  | cons (run : Run) (moment : Moment) (rest : List Moment) (last : Run)
      (found : moment.found = run) (follows : Unfolds moment.after rest last) :
      Unfolds run (moment :: rest) last

namespace Unfolds

theorem append {run between last : Run} {earlier later : List Moment}
    (first : Unfolds run earlier between) (second : Unfolds between later last) :
    Unfolds run (earlier ++ later) last := by
  induction first with
  | nil run => exact second
  | cons run moment rest between found follows ih => exact .cons run moment _ last found (ih second)

theorem split {run last : Run} {earlier later : List Moment}
    (unfolds : Unfolds run (earlier ++ later) last) :
    ∃ between, Unfolds run earlier between ∧ Unfolds between later last := by
  induction earlier generalizing run with
  | nil => exact ⟨run, .nil run, unfolds⟩
  | cons moment earlier ih =>
      cases unfolds with
      | cons run moment rest last found follows =>
          obtain ⟨between, first, second⟩ := ih follows
          exact ⟨between, .cons run moment earlier between found first, second⟩

/-- A run cut at a moment: what leads up to it and what follows it. -/
theorem cut {run last : Run} {earlier later : List Moment} {moment : Moment}
    (unfolds : Unfolds run (earlier ++ moment :: later) last) :
    Unfolds run earlier moment.found ∧ Unfolds moment.after later last := by
  obtain ⟨between, first, second⟩ := unfolds.split
  cases second with
  | cons _ _ _ _ found follows =>
      rw [found]
      exact ⟨first, follows⟩

theorem eq_of_nil {run last : Run} (unfolds : Unfolds run [] last) : run = last := by
  cases unfolds
  rfl

/-- What every moment keeps holds at each of them and behind the last one. -/
theorem keeps (holds : Run → Prop) {moments : List Moment} {run last : Run}
    (kept : ∀ moment ∈ moments, holds moment.found → holds moment.after)
    (unfolds : Unfolds run moments last) (start : holds run) :
    (∀ moment ∈ moments, holds moment.found) ∧ holds last := by
  induction unfolds with
  | nil run => exact ⟨fun moment member => absurd member (List.not_mem_nil), start⟩
  | cons run moment rest last found follows ih =>
      have here : holds moment.found := by
        rw [found]
        exact start
      obtain ⟨later, atEnd⟩ :=
        ih (fun other member => kept other (List.mem_cons_of_mem _ member))
          (kept moment List.mem_cons_self here)
      refine ⟨?_, atEnd⟩
      intro other member
      rcases List.mem_cons.mp member with same | behind
      · rw [same]
        exact here
      · exact later other behind

end Unfolds

/-! ### Slots -/

namespace Run

theorem unreported_after (run : Run) : run.unreported.after run.report = run := by
  rcases run with ⟨state, machine, report⟩
  exact congrArg (Run.mk state machine) (Report.append_none report)

/-- The moments of a number of slots. -/
def slotMoments : Nat → Run → List Moment
  | 0, _ => []
  | slots + 1, run => .slot run :: slotMoments slots (Moment.slot run).after

theorem length_slotMoments (slots : Nat) (run : Run) : (slotMoments slots run).length = slots := by
  induction slots generalizing run with
  | zero => rfl
  | succ slots ih => rw [slotMoments, List.length_cons, ih]

theorem isSlot_of_mem_slotMoments (slots : Nat) (run : Run) :
    ∀ moment ∈ slotMoments slots run, moment.isSlot = true := by
  induction slots generalizing run with
  | zero =>
      intro moment member
      cases member
  | succ slots ih =>
      intro moment member
      rcases List.mem_cons.mp member with same | later
      · rw [same]
        rfl
      · exact ih _ moment later

/-- What was reported before a slot does not matter for what it leaves. -/
theorem after_slot_unreported (run : Run) :
    (Moment.slot run.unreported).after = (Moment.slot run).after := by
  have used := slot?_after run.report run.unreported
  rw [unreported_after] at used
  rw [Moment.after, Moment.after, used]
  cases run.unreported.slot? with
  | none => rfl
  | some outcome => rfl

theorem unfolds_slotMoments (slots : Nat) (run : Run) :
    Unfolds run.unreported (slotMoments slots run.unreported)
      (useSlots slots run).1.unreported := by
  induction slots generalizing run with
  | zero => exact .nil _
  | succ slots ih =>
      refine .cons _ _ _ _ rfl ?_
      rw [after_slot_unreported, useSlots_succ, Moment.after]
      cases used : run.slot? with
      | none =>
          have still := ih run
          rw [useSlots_of_blocked used] at still
          exact still
      | some outcome =>
          rcases outcome with ⟨later, fault⟩
          have goesOn := ih later
          cases fault with
          | none => exact goesOn
          | some fault =>
              have halted : later.state = .halted := by
                cases slotUse_of_slot? used
                rfl
              rw [useSlots_of_blocked (slot?_of_halted halted)] at goesOn
              exact goesOn

theorem running_of_isStep {run : Run} : (Moment.slot run).isStep = true ↔ run.state = .running :=
  decide_eq_true_iff

/-- Slots without a fault, one at a time: nothing can use the next one, or it is used. -/
theorem useSlots_induction {motive : Run → List Moment → Run → Prop}
    (done : ∀ run, motive run [] run)
    (lost : ∀ run rest, run.slot? = none → motive run rest run →
      motive run (.slot run.unreported :: rest) run)
    (used : ∀ run later rest last, SlotUse run later none →
      (Moment.slot run).after = later.unreported → motive later rest last →
      motive run (.slot run.unreported :: rest) last)
    (slots : Nat) (run : Run) (faultless : (useSlots slots run).2 = none) :
    motive run (slotMoments slots run.unreported) (useSlots slots run).1 := by
  induction slots generalizing run with
  | zero => exact done run
  | succ slots ih =>
      rw [useSlots_succ] at faultless ⊢
      rw [slotMoments, after_slot_unreported]
      cases outcome : run.slot? with
      | none =>
          have still := ih run (by rw [useSlots_of_blocked outcome])
          rw [useSlots_of_blocked outcome] at still
          rw [Moment.after_of_blocked outcome]
          exact lost run _ outcome still
      | some outcome' =>
          rcases outcome' with ⟨later, fault⟩
          simp only [outcome] at faultless
          cases fault with
          | some fault => cases faultless
          | none =>
              have goesOn : (Moment.slot run).after = later.unreported := by
                rw [Moment.after, outcome]
              rw [goesOn]
              exact used run later _ _ (slotUse_of_slot? outcome) goesOn (ih later faultless)

/-- A number in reports goes up by one at every moment of a kind. -/
structure Counts {limit : Nat} (count : Report → Counter limit) (kind : Moment → Bool) :
    Prop where
  lost : ∀ run : Run, run.slot? = none → kind (.slot run.unreported) = false
  used : ∀ run later, SlotUse run later none →
    count later.report = count run.report + .ofNat (kind (.slot run.unreported)).toNat
  refreshed : ∀ run : Run,
    count run.refresh.report = count run.report + .ofNat (kind (.refresh run.unreported)).toNat

theorem Counts.slots {limit : Nat} {count : Report → Counter limit} {kind : Moment → Bool}
    (counts : Counts count kind) (slots : Nat) (run : Run)
    (faultless : (useSlots slots run).2 = none) :
    count (useSlots slots run).1.report =
      count run.report + .ofNat ((slotMoments slots run.unreported).countP kind) := by
  refine useSlots_induction (motive := fun run moments last =>
      count last.report = count run.report + .ofNat (moments.countP kind)) ?_ ?_ ?_ slots run
    faultless
  · intro run
    exact (Counter.add_zero _).symm
  · intro run rest blocked counted
    rw [Moment.countP_cons, counts.lost run blocked, Bool.toNat_false, Nat.zero_add]
    exact counted
  · intro run later rest last use _ counted
    rw [counted, counts.used run later use, Moment.countP_cons, Counter.ofNat_add,
      Counter.add_assoc]

/-- The report counts the slots that go to an instruction. -/
theorem counts_isStep : Counts Report.instructions Moment.isStep where
  lost := by
    intro run blocked
    refine Bool.eq_false_iff.mpr fun isStep => ?_
    have runs : run.state = .running := running_of_isStep.mp isStep
    rw [slot?, runs] at blocked
    cases blocked
  used := by
    intro run later use
    cases use with
    | took x machine waits found =>
        have noStep : (Moment.slot run.unreported).isStep ≠ true := by
          intro isStep
          have runs : run.state = .running := running_of_isStep.mp isStep
          rw [runs] at waits
          cases waits
        rw [Bool.eq_false_iff.mpr noStep]
        exact (Counter.add_zero _).symm
    | carried stepped outcome runs step =>
        have isStep : (Moment.slot run.unreported).isStep = true := running_of_isStep.mpr runs
        rw [isStep]
        exact (counts_follow _ outcome).1
  refreshed := by
    rintro ⟨state, machine, report⟩
    cases state <;> rfl

theorem counts_isRefresh : Counts Report.frames Moment.isRefresh where
  lost := fun _ _ => rfl
  used := by
    intro run later use
    cases use with
    | took x machine waits found => exact (Counter.add_zero _).symm
    | carried stepped outcome runs step =>
        refine (counts_follow _ outcome).2.1.trans ?_
        rfl
  refreshed := by
    rintro ⟨state, machine, report⟩
    cases state <;> rfl

end Run

/-! ### Stretches of time -/

namespace Pacer

/-- How a pacer and a machine find a moment. -/
def runOf (pacer : Pacer) (machine : Machine) : Run :=
  ⟨pacer.state, machine, Report.none⟩

def momentsThrough (pacer : Pacer) (machine : Machine) (nanoseconds : Nat) : Nat → List Moment
  | 0 => Run.slotMoments (pacer.slotsIn nanoseconds) (pacer.runOf machine)
  | refreshes + 1 =>
      Run.slotMoments (pacer.slotsIn pacer.untilRefresh) (pacer.runOf machine) ++
        match pacer.runFor pacer.untilRefresh machine Report.none with
        | (_, some _) => []
        | (run, none) =>
            .refresh run.unreported ::
              if run.refresh.state = .halted then []
              else
                (pacer.advance pacer.untilRefresh run.refresh.state).momentsThrough
                  run.refresh.machine (nanoseconds - pacer.untilRefresh) refreshes

/-- The moments that come up while time goes by. A halted machine finds none. -/
def moments (pacer : Pacer) (machine : Machine) (nanoseconds : Nat) : List Moment :=
  if pacer.isRunning then pacer.momentsThrough machine nanoseconds (pacer.refreshesIn nanoseconds)
  else []

/-- How a stretch of time goes by: its moments, and what it comes to. It ends before the next
refresh, or with a fault, or at a refresh that finds the machine halted, or goes on behind it. -/
inductive Passes : Pacer → Machine → Report → Nat → List Moment → Ticked → Prop where
  | rested (pacer : Pacer) (machine : Machine) (report : Report) (nanoseconds : Nat) (run : Run)
      (short : nanoseconds < pacer.untilRefresh)
      (ran : pacer.runFor nanoseconds machine report = (run, none)) :
      Passes pacer machine report nanoseconds
        (Run.slotMoments (pacer.slotsIn nanoseconds) (pacer.runOf machine))
        ⟨pacer.advance nanoseconds run.state, run.machine, .ok run.report⟩
  | failed (pacer : Pacer) (machine : Machine) (report : Report) (nanoseconds before : Nat)
      (run : Run) (fault : Fault) (slice : before = min nanoseconds pacer.untilRefresh)
      (ran : pacer.runFor before machine report = (run, some fault)) :
      Passes pacer machine report nanoseconds
        (Run.slotMoments (pacer.slotsIn before) (pacer.runOf machine))
        ⟨pacer.advance before run.state, run.machine, .error fault⟩
  | ended (pacer : Pacer) (machine : Machine) (report : Report) (more : Nat) (run : Run)
      (ran : pacer.runFor pacer.untilRefresh machine report = (run, none))
      (halted : run.refresh.state = .halted) :
      Passes pacer machine report (pacer.untilRefresh + more)
        (Run.slotMoments (pacer.slotsIn pacer.untilRefresh) (pacer.runOf machine) ++
          [.refresh run.unreported])
        ⟨pacer.advance pacer.untilRefresh run.refresh.state, run.refresh.machine,
          .ok run.refresh.report⟩
  | wentOn (pacer : Pacer) (machine : Machine) (report : Report) (more : Nat) (run : Run)
      (moments : List Moment) (ticked : Ticked)
      (ran : pacer.runFor pacer.untilRefresh machine report = (run, none))
      (runs : run.refresh.state ≠ .halted)
      (behind : Passes (pacer.advance pacer.untilRefresh run.refresh.state) run.refresh.machine
        run.refresh.report more moments ticked) :
      Passes pacer machine report (pacer.untilRefresh + more)
        (Run.slotMoments (pacer.slotsIn pacer.untilRefresh) (pacer.runOf machine) ++
          .refresh run.unreported :: moments)
        ticked

theorem momentsThrough_short {pacer : Pacer} {nanoseconds : Nat}
    (short : nanoseconds < pacer.untilRefresh) (machine : Machine) :
    pacer.momentsThrough machine nanoseconds (pacer.refreshesIn nanoseconds) =
      Run.slotMoments (pacer.slotsIn nanoseconds) (pacer.runOf machine) := by
  rw [(refreshesIn_eq_zero_iff pacer nanoseconds).mpr short, momentsThrough]

theorem momentsThrough_untilRefresh_add (pacer : Pacer) (machine : Machine) (report : Report)
    (more : Nat) :
    pacer.momentsThrough machine (pacer.untilRefresh + more)
        (pacer.refreshesIn (pacer.untilRefresh + more)) =
      Run.slotMoments (pacer.slotsIn pacer.untilRefresh) (pacer.runOf machine) ++
        match pacer.runFor pacer.untilRefresh machine report with
        | (_, some _) => []
        | (run, none) =>
            .refresh run.unreported ::
              if run.refresh.state = .halted then []
              else
                (pacer.advance pacer.untilRefresh run.refresh.state).momentsThrough
                  run.refresh.machine more
                  ((pacer.advance pacer.untilRefresh run.refresh.state).refreshesIn more) := by
  have unreported := runFor_after pacer pacer.untilRefresh machine report Report.none
  rw [Report.append_none] at unreported
  rw [refreshesIn_untilRefresh_add pacer .running, momentsThrough, Nat.add_sub_cancel_left,
    unreported]
  rcases pacer.runFor pacer.untilRefresh machine Report.none with ⟨run, fault⟩
  cases fault with
  | some fault => rfl
  | none =>
      simp only [Run.refresh_after, Run.state_after, Run.machine_after]
      rfl

theorem passes_through (pacer : Pacer) (machine : Machine) (report : Report) (nanoseconds : Nat) :
    Passes pacer machine report nanoseconds
      (pacer.momentsThrough machine nanoseconds (pacer.refreshesIn nanoseconds))
      (pacer.through machine report nanoseconds) := by
  induction pacer, nanoseconds using refresh_induction generalizing machine report with
  | short pacer nanoseconds short =>
      rw [momentsThrough_short short, through_short short]
      cases ran : pacer.runFor nanoseconds machine report with
      | mk run fault =>
          cases fault with
          | none => exact .rested pacer machine report nanoseconds run short ran
          | some fault =>
              have slice : nanoseconds = min nanoseconds pacer.untilRefresh := by omega
              exact .failed pacer machine report nanoseconds nanoseconds run fault slice ran
  | long pacer more ih =>
      rw [momentsThrough_untilRefresh_add pacer machine report, through_untilRefresh_add]
      cases ran : pacer.runFor pacer.untilRefresh machine report with
      | mk run fault =>
          cases fault with
          | some fault =>
              have slice : pacer.untilRefresh =
                  min (pacer.untilRefresh + more) pacer.untilRefresh := by
                omega
              simp only [List.append_nil]
              exact .failed pacer machine report _ _ run fault slice ran
          | none =>
              by_cases halted : run.refresh.state = .halted
              · simp only [if_pos halted]
                rw [← halted]
                exact .ended pacer machine report more run ran halted
              · simp only [if_neg halted]
                exact .wentOn pacer machine report more run _ _ ran halted (ih _ _ _)

namespace Passes

variable {pacer : Pacer} {machine : Machine} {report : Report} {nanoseconds : Nat}
variable {moments : List Moment} {ticked : Ticked}

private theorem unfolds_runFor {time : Nat} {run : Run} {fault : Option Fault}
    (ran : pacer.runFor time machine report = (run, fault)) :
    Unfolds (pacer.runOf machine) (Run.slotMoments (pacer.slotsIn time) (pacer.runOf machine))
      run.unreported := by
  have unfolds := Run.unfolds_slotMoments (pacer.slotsIn time) ⟨pacer.state, machine, report⟩
  rw [← runFor, ran] at unfolds
  exact unfolds

private theorem refresh_unreported (run : Run) :
    run.unreported.refresh.unreported = run.refresh.unreported := by
  have reported := Run.refresh_after run.report run.unreported
  rw [Run.unreported_after] at reported
  rw [reported]
  rfl

theorem unfolds (passes : Passes pacer machine report nanoseconds moments ticked) :
    Unfolds (pacer.runOf machine) moments (ticked.pacer.runOf ticked.machine) := by
  induction passes with
  | rested pacer machine report nanoseconds run short ran => exact unfolds_runFor ran
  | failed pacer machine report nanoseconds before run fault slice ran => exact unfolds_runFor ran
  | ended pacer machine report more run ran halted =>
      refine (unfolds_runFor ran).append (.cons _ _ _ _ rfl ?_)
      rw [Moment.after, refresh_unreported]
      exact .nil _
  | wentOn pacer machine report more run moments ticked ran runs behind ih =>
      refine (unfolds_runFor ran).append (.cons _ _ _ _ rfl ?_)
      rw [Moment.after, refresh_unreported]
      exact ih

theorem isSlot_or_isRefresh (passes : Passes pacer machine report nanoseconds moments ticked) :
    ∀ moment ∈ moments, moment.isSlot = true ∨ moment.isRefresh = true := by
  have slots {count : Nat} {run : Run} :
      ∀ moment ∈ Run.slotMoments count run, moment.isSlot = true ∨ moment.isRefresh = true :=
    fun moment member => .inl (Run.isSlot_of_mem_slotMoments count run moment member)
  induction passes with
  | rested pacer machine report nanoseconds run short ran => exact slots
  | failed pacer machine report nanoseconds before run fault slice ran => exact slots
  | ended pacer machine report more run ran halted =>
      intro moment member
      rcases List.mem_append.mp member with here | refresh
      · exact slots moment here
      · rw [List.mem_singleton.mp refresh]
        exact .inr rfl
  | wentOn pacer machine report more run moments ticked ran runs behind ih =>
      intro moment member
      rcases List.mem_append.mp member with here | later
      · exact slots moment here
      · rcases List.mem_cons.mp later with refresh | later
        · rw [refresh]
          exact .inr rfl
        · exact ih moment later

private theorem countP_isSlot_slotMoments (slots : Nat) (run : Run) :
    (Run.slotMoments slots run).countP Moment.isSlot = slots := by
  rw [List.countP_eq_length.mpr (Run.isSlot_of_mem_slotMoments slots run),
    Run.length_slotMoments]

private theorem countP_isRefresh_slotMoments (slots : Nat) (run : Run) :
    (Run.slotMoments slots run).countP Moment.isRefresh = 0 := by
  rw [List.countP_eq_zero]
  intro moment member
  have isSlot := Run.isSlot_of_mem_slotMoments slots run moment member
  cases moment with
  | slot run => simp [Moment.isRefresh]
  | _ => cases isSlot

private theorem granted_advance (onTime : pacer.OnTime) (time : Nat) (state : RunState) :
    (pacer.advance time state).granted = pacer.granted + pacer.slotsIn time := by
  have upTo := slotsBy_mono pacer.rate (Nat.le_add_right pacer.clock time)
  rw [← onTime] at upTo
  exact (Nat.add_sub_of_le upTo).symm

theorem granted (passes : Passes pacer machine report nanoseconds moments ticked)
    (onTime : pacer.OnTime) :
    ticked.pacer.granted = pacer.granted + moments.countP Moment.isSlot := by
  induction passes with
  | rested pacer machine report nanoseconds run short ran =>
      rw [countP_isSlot_slotMoments]
      exact granted_advance onTime nanoseconds run.state
  | failed pacer machine report nanoseconds before run fault slice ran =>
      rw [countP_isSlot_slotMoments]
      exact granted_advance onTime before run.state
  | ended pacer machine report more run ran halted =>
      rw [List.countP_append, countP_isSlot_slotMoments]
      exact granted_advance onTime pacer.untilRefresh run.refresh.state
  | wentOn pacer machine report more run moments ticked ran runs behind ih =>
      rw [ih (onTime_advance _ _ _), granted_advance onTime, List.countP_append,
        countP_isSlot_slotMoments, Nat.add_assoc]
      rfl

section Counting

variable {limit : Nat} {count : Report → Counter limit} {kind : Moment → Bool}
  (counts : Run.Counts count kind)

include counts

theorem counted_runFor {time : Nat} {run : Run}
    (ran : pacer.runFor time machine report = (run, none)) :
    count run.report = count report +
      .ofNat ((Run.slotMoments (pacer.slotsIn time) (pacer.runOf machine)).countP kind) := by
  have counted := counts.slots (pacer.slotsIn time) ⟨pacer.state, machine, report⟩
  rw [← runFor, ran] at counted
  exact counted rfl

theorem counted (passes : Passes pacer machine report nanoseconds moments ticked)
    {last : Report} (finished : ticked.result = .ok last) :
    count last = count report + .ofNat (moments.countP kind) := by
  induction passes with
  | rested pacer machine report nanoseconds run short ran =>
      cases finished
      exact counted_runFor counts ran
  | failed pacer machine report nanoseconds before run fault slice ran => cases finished
  | ended pacer machine report more run ran halted =>
      cases finished
      rw [counts.refreshed, counted_runFor counts ran, List.countP_append, Moment.countP_cons,
        List.countP_nil, Nat.add_zero, Counter.ofNat_add, Counter.add_assoc]
  | wentOn pacer machine report more run moments ticked ran runs behind ih =>
      rw [ih finished, counts.refreshed, counted_runFor counts ran, List.countP_append,
        Moment.countP_cons, Counter.ofNat_add, Counter.ofNat_add, Counter.add_assoc,
        Counter.add_assoc]

end Counting

theorem frames_refresh (run : Run) :
    run.refresh.report.frames = run.report.frames + .ofNat 1 :=
  Run.counts_isRefresh.refreshed run

theorem frames_runFor {time : Nat} {run : Run}
    (ran : pacer.runFor time machine report = (run, none)) :
    run.report.frames = report.frames := by
  rw [counted_runFor Run.counts_isRefresh ran, countP_isRefresh_slotMoments, Counter.add_zero]

/-- A stretch moves the pacer on by no more than its time. -/
theorem advanced (passes : Passes pacer machine report nanoseconds moments ticked) :
    ∃ time ≤ nanoseconds, ticked.pacer = pacer.advance time ticked.pacer.state := by
  induction passes with
  | rested pacer machine report nanoseconds run short ran =>
      exact ⟨nanoseconds, Nat.le_refl _, rfl⟩
  | failed pacer machine report nanoseconds before run fault slice ran =>
      exact ⟨before, by omega, rfl⟩
  | ended pacer machine report more run ran halted =>
      exact ⟨pacer.untilRefresh, Nat.le_add_right _ _, rfl⟩
  | wentOn pacer machine report more run moments ticked ran runs behind ih =>
      obtain ⟨time, short, advanced⟩ := ih
      rw [advance_advance] at advanced
      exact ⟨pacer.untilRefresh + time, Nat.add_le_add_left short _, advanced⟩

/-- A stretch that leaves the machine going has lasted all its time. -/
theorem lasted (passes : Passes pacer machine report nanoseconds moments ticked)
    (going : ticked.pacer.state ≠ .halted) :
    ticked.pacer = pacer.advance nanoseconds ticked.pacer.state ∧
      moments.countP Moment.isRefresh = pacer.refreshesIn nanoseconds ∧
      ∃ last, ticked.result = .ok last := by
  induction passes with
  | rested pacer machine report nanoseconds run short ran =>
      refine ⟨rfl, ?_, run.report, rfl⟩
      rw [countP_isRefresh_slotMoments, (refreshesIn_eq_zero_iff pacer nanoseconds).mpr short]
  | failed pacer machine report nanoseconds before run fault slice ran =>
      exact absurd (Run.halted_of_fault ran) going
  | ended pacer machine report more run ran halted => exact absurd halted going
  | wentOn pacer machine report more run moments ticked ran runs behind ih =>
      obtain ⟨advanced, refreshes, finished⟩ := ih going
      refine ⟨?_, ?_, finished⟩
      · rw [advance_advance] at advanced
        exact advanced
      · rw [List.countP_append, countP_isRefresh_slotMoments, Nat.zero_add,
          refreshesIn_untilRefresh_add pacer run.refresh.state, ← refreshes,
          List.countP_cons_of_pos rfl]

end Passes

/-! ### Ticks -/

theorem moments_of_running {pacer : Pacer} (runs : pacer.state ≠ .halted) (machine : Machine)
    (nanoseconds : Nat) :
    pacer.moments machine nanoseconds =
      pacer.momentsThrough machine nanoseconds (pacer.refreshesIn nanoseconds) :=
  if_pos ((isRunning_iff pacer).mpr runs)

theorem moments_of_halted {pacer : Pacer} (halted : pacer.state = .halted) (machine : Machine)
    (nanoseconds : Nat) : pacer.moments machine nanoseconds = [] :=
  if_neg (fun runs => (isRunning_iff pacer).mp runs halted)

theorem passes_tick {pacer : Pacer} (runs : pacer.state ≠ .halted) (machine : Machine)
    (nanoseconds : Nat) :
    Passes pacer machine Report.none nanoseconds (pacer.moments machine nanoseconds)
      (pacer.tick machine nanoseconds) := by
  rw [moments_of_running runs, tick_of_running runs]
  exact passes_through pacer machine Report.none nanoseconds

variable (pacer : Pacer) (machine : Machine) (nanoseconds : Nat)

theorem unfolds_moments :
    Unfolds (pacer.runOf machine) (pacer.moments machine nanoseconds)
      ((pacer.tick machine nanoseconds).pacer.runOf (pacer.tick machine nanoseconds).machine) := by
  by_cases halted : pacer.state = .halted
  · rw [moments_of_halted halted, tick_of_halted halted]
    exact .nil _
  · exact (passes_tick halted machine nanoseconds).unfolds

theorem isSlot_or_isRefresh_of_mem_moments :
    ∀ moment ∈ pacer.moments machine nanoseconds,
      moment.isSlot = true ∨ moment.isRefresh = true := by
  by_cases halted : pacer.state = .halted
  · rw [moments_of_halted halted]
    intro moment member
    cases member
  · exact (passes_tick halted machine nanoseconds).isSlot_or_isRefresh

variable {pacer}

theorem granted_tick (onTime : pacer.OnTime) :
    (pacer.tick machine nanoseconds).pacer.granted =
      pacer.granted + (pacer.moments machine nanoseconds).countP Moment.isSlot := by
  by_cases halted : pacer.state = .halted
  · rw [moments_of_halted halted, tick_of_halted halted]
    rfl
  · exact (passes_tick halted machine nanoseconds).granted onTime

variable {machine nanoseconds}

theorem counted_tick {limit : Nat} {count : Report → Counter limit} {kind : Moment → Bool}
    (counts : Run.Counts count kind) (fromZero : count Report.none = .ofNat 0) {report : Report}
    (finished : (pacer.tick machine nanoseconds).result = .ok report) :
    count report = .ofNat ((pacer.moments machine nanoseconds).countP kind) := by
  by_cases halted : pacer.state = .halted
  · rw [tick_of_halted halted] at finished
    cases finished
    rw [moments_of_halted halted]
    exact fromZero
  · rw [(passes_tick halted machine nanoseconds).counted counts finished, fromZero,
      Counter.zero_add]

/-- The report counts the slots that go to an instruction, and no lost one later on. -/
theorem instructions_tick {report : Report}
    (finished : (pacer.tick machine nanoseconds).result = .ok report) :
    report.instructions = .ofNat ((pacer.moments machine nanoseconds).countP Moment.isStep) :=
  counted_tick Run.counts_isStep rfl finished

theorem frames_tick {report : Report}
    (finished : (pacer.tick machine nanoseconds).result = .ok report) :
    report.frames = .ofNat ((pacer.moments machine nanoseconds).countP Moment.isRefresh) :=
  counted_tick Run.counts_isRefresh rfl finished

end Pacer
end Chip8
