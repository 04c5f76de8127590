import Chip8.Proofs.Cadence
import Chip8.Proofs.Course
import Chip8.Proofs.Sounding

set_option autoImplicit false

/-!
The tones of a whole run, told one after the other. The sound timer leaves zero or comes back to it
at single moments (`Moment.crossing?`), and each of them is told exactly once: a slot tells what its
instruction does, a refresh what its count does, and no edge is left in the machine for later
(`tones_slotUse`, `tones_refresh`). By induction on the way a run goes its reports together tell the
crossings among its moments, and so starts and stops take turns.

Main statement: `tones_exact`.
-/

namespace Chip8

/-! ### Crossings -/

namespace Run

/-- The tone that a device was told last if it hears what the sound timer says. -/
def toneNow (run : Run) : Tone :=
  if run.sound = 0 then .stop else .start

end Run

namespace Moment

/-- The edge of the sound timer at a moment. -/
def crossing? (moment : Moment) : Option Tone :=
  if moment.found.sound = 0 ∧ moment.after.sound ≠ 0 then some .start
  else if moment.found.sound ≠ 0 ∧ moment.after.sound = 0 then some .stop
  else none

theorem crossing?_eq_edge (moment : Moment) :
    moment.crossing? = Timers.edge moment.found.sound moment.after.sound := by
  unfold crossing? Timers.edge
  by_cases silentBefore : moment.found.sound = 0 <;>
    by_cases silentAfter : moment.after.sound = 0 <;> simp [silentBefore, silentAfter]

theorem crossings_cons (moment : Moment) (rest : List Moment) :
    (moment :: rest).filterMap crossing? =
      (Timers.edge moment.found.sound moment.after.sound).toList ++ rest.filterMap crossing? := by
  rw [← crossing?_eq_edge, List.filterMap_cons]
  cases moment.crossing? <;> rfl

theorem crossing?_eq_none_iff (moment : Moment) :
    moment.crossing? = none ↔ (moment.found.sound = 0 ↔ moment.after.sound = 0) := by
  unfold crossing?
  by_cases silentBefore : moment.found.sound = 0 <;>
    by_cases silentAfter : moment.after.sound = 0 <;> simp [silentBefore, silentAfter]

theorem crossing?_of_same {moment : Moment} (same : moment.after.sound = moment.found.sound) :
    moment.crossing? = none := by
  rw [crossing?_eq_none_iff, same]

theorem toneNow_of_crossing? {moment : Moment} {tone : Tone}
    (crosses : moment.crossing? = some tone) :
    moment.found.toneNow ≠ tone ∧ moment.after.toneNow = tone := by
  unfold crossing? at crosses
  split at crosses
  · rename_i starts
    cases crosses
    rw [Run.toneNow, Run.toneNow, if_pos starts.1, if_neg starts.2]
    exact ⟨by decide, rfl⟩
  · split at crosses
    · rename_i stops
      cases crosses
      rw [Run.toneNow, Run.toneNow, if_neg stops.1, if_pos stops.2]
      exact ⟨by decide, rfl⟩
    · cases crosses

theorem toneNow_of_no_crossing {moment : Moment} (stays : moment.crossing? = none) :
    moment.found.toneNow = moment.after.toneNow := by
  have same := moment.crossing?_eq_none_iff.mp stays
  unfold Run.toneNow
  by_cases silent : moment.found.sound = 0
  · rw [if_pos silent, if_pos (same.mp silent)]
  · rw [if_neg silent, if_neg (fun silentAfter => silent (same.mpr silentAfter))]

end Moment

/-- From a run on, the crossings take turns, and the last of them leads to how it ends. -/
theorem Unfolds.crossings {run last : Run} {moments : List Moment}
    (unfolds : Unfolds run moments last) :
    (run.toneNow :: moments.filterMap Moment.crossing?).IsChain (· ≠ ·) ∧
      (moments.filterMap Moment.crossing?).getLast?.getD run.toneNow = last.toneNow := by
  induction unfolds with
  | nil run => exact ⟨.singleton _, rfl⟩
  | cons run moment rest last found follows ih =>
      subst found
      obtain ⟨takeTurns, atEnd⟩ := ih
      cases crosses : moment.crossing? with
      | none =>
          rw [List.filterMap_cons_none crosses, Moment.toneNow_of_no_crossing crosses]
          exact ⟨takeTurns, atEnd⟩
      | some tone =>
          obtain ⟨other, same⟩ := Moment.toneNow_of_crossing? crosses
          rw [same] at takeTurns atEnd
          rw [List.filterMap_cons_some crosses, List.getLast?_cons]
          exact ⟨List.isChain_cons_cons.mpr ⟨other, takeTurns⟩, atEnd⟩

/-- Nothing crosses exactly if the sound timer of a silent run stays at zero. -/
theorem Unfolds.no_crossing_iff {run last : Run} {moments : List Moment}
    (unfolds : Unfolds run moments last) (silent : run.sound = 0) :
    moments.filterMap Moment.crossing? = [] ↔ ∀ moment ∈ moments, moment.after.sound = 0 := by
  rw [List.filterMap_eq_nil_iff]
  constructor
  · intro stays moment member
    have silentThroughout := unfolds.keeps (fun run => run.sound = 0)
      (fun other member => (other.crossing?_eq_none_iff.mp (stays other member)).mp) silent
    exact (moment.crossing?_eq_none_iff.mp (stays moment member)).mp
      (silentThroughout.1 moment member)
  · intro silentAfter moment member
    have silentThroughout := unfolds.keeps (fun run => run.sound = 0)
      (fun other member _ => silentAfter other member) silent
    exact moment.crossing?_eq_none_iff.mpr
      (iff_of_true (silentThroughout.1 moment member) (silentAfter moment member))

/-! ### What moves the sound timer -/

namespace Moment

/-- The ways in which a moment deals with the sound timer: a refresh counts it down, Fx18 sets it,
00FD ends its tone, and all else leaves it alone. -/
inductive SoundStep (moment : Moment) : Prop where
  | counted (isRefresh : moment.isRefresh = true)
      (sound : moment.after.sound = Timers.countDown moment.found.sound)
  | set (x : Register) (isStep : moment.isStep = true)
      (word : moment.found.machine.nextWord.toNat = 0xF018 + 0x100 * x.val)
      (sound : moment.after.sound = moment.found.machine.register x)
  | ended (isStep : moment.isStep = true) (word : moment.found.machine.nextWord = 0x00FD)
      (sound : moment.after.sound = 0)
  | kept (sound : moment.after.sound = moment.found.sound)

private theorem soundStep_carried {run : Run} {stepped : Machine} {outcome : Outcome}
    (used : run.slot? = some (Run.follow
      { state := .running
        machine := stepped.takeTone.1
        report := run.report ++
          Run.instructionReport stepped.takeTone.2 (Run.underflowsOf outcome) } outcome, none))
    (runs : run.state = .running) (step : run.machine.step = (stepped, .ok outcome)) :
    SoundStep (.slot run) := by
  have isStep : (Moment.slot run).isStep = true := Run.running_of_isStep.mpr runs
  obtain ⟨instruction, next, performed⟩ := Machine.perform_of_step step
  have code := (run.machine.instruction?_eq_some_iff.mp next).1
  by_cases ends : outcome = .exit
  · have exits : instruction = .exit := by
      apply Machine.instruction_of_exit
      rw [performed, ends]
    subst exits ends
    refine .ended isStep (UInt16.toNat_inj.mp code.symm) ?_
    rw [after, used]
    rfl
  · have sound : (Moment.slot run).after.sound = stepped.timers.sound := by
      rw [after, used]
      cases outcome <;> first | rfl | exact absurd rfl ends
    by_cases sets : ∃ x, instruction = .setSound x
    · obtain ⟨x, rfl⟩ := sets
      refine .set x isStep ?_ ?_
      · rw [Instruction.code, byteCode] at code
        change _ = run.machine.nextWord.toNat at code
        change run.machine.nextWord.toNat = _
        rw [← code]
        change 0x1000 * 0xF + 0x100 * x.val + 24 = _
        omega
      · have registered := congrArg (fun done => done.1.timers.sound) performed
        exact sound.trans registered.symm
    · obtain ⟨same, _⟩ := run.machine.advance.keepsSound_perform (not_exists.mp sets)
      rw [performed] at same
      exact .kept (sound.trans same)

theorem soundStep (moment : Moment) : SoundStep moment := by
  cases moment with
  | press key run => exact .kept rfl
  | release key run => exact .kept rfl
  | refresh run =>
      refine .counted rfl ?_
      rw [after, Run.sound, Run.unreported, Run.timers_refresh]
      rfl
  | slot run =>
      by_cases runs : run.state = .running
      · cases used : run.slot? with
        | none =>
            rw [Run.slot?, runs] at used
            cases used
        | some outcome =>
            rcases outcome with ⟨later, fault⟩
            cases Run.slotUse_of_slot? used with
            | took x machine waits found =>
                rw [runs] at waits
                cases waits
            | failed stepped fault runs step =>
                refine .kept ?_
                rw [after, used, (Machine.step_error step).1]
                rfl
            | carried stepped outcome runs step => exact soundStep_carried used runs step
      · have noStep : (Moment.slot run).isStep = false := decide_eq_false runs
        exact .kept (congrArg Timers.sound (timers_after rfl noStep))

end Moment

/-! ### What is told -/

namespace Run

/-- Slots tell the crossings among their moments, behind what was told before. -/
theorem tones_useSlots (slots : Nat) (run : Run) (settled : run.machine.tone = none)
    (faultless : (useSlots slots run).2 = none) :
    (useSlots slots run).1.machine.tone = none ∧
      (useSlots slots run).1.report.tones.toList =
        run.report.tones.toList ++
          (slotMoments slots run.unreported).filterMap Moment.crossing? := by
  refine useSlots_induction (motive := fun run moments last => run.machine.tone = none →
      last.machine.tone = none ∧ last.report.tones.toList =
        run.report.tones.toList ++ moments.filterMap Moment.crossing?)
    ?_ ?_ ?_ slots run faultless settled
  · intro run settled
    exact ⟨settled, (List.append_nil _).symm⟩
  · intro run rest blocked told settled
    have stays : (Moment.slot run.unreported).crossing? = none := by
      apply Moment.crossing?_of_same
      rw [after_slot_unreported, Moment.after_of_blocked blocked]
      rfl
    rw [List.filterMap_cons_none stays]
    exact told settled
  · intro run later rest last use goesOn told settled
    obtain ⟨settledLater, toldNow⟩ := tones_slotUse use settled
    obtain ⟨settledThen, toldThen⟩ := told settledLater
    refine ⟨settledThen, toldThen.trans ?_⟩
    rw [Moment.crossings_cons, after_slot_unreported, goesOn, toldNow, List.append_assoc]
    rfl

end Run

namespace Pacer

variable {pacer : Pacer} {machine : Machine} {report last : Report} {nanoseconds : Nat}
variable {moments : List Moment} {ticked : Ticked}

private theorem tones_runFor {time : Nat} {run : Run} (settled : machine.tone = none)
    (ran : pacer.runFor time machine report = (run, none)) :
    run.machine.tone = none ∧
      run.report.tones.toList =
        report.tones.toList ++
          (Run.slotMoments (pacer.slotsIn time) (pacer.runOf machine)).filterMap
            Moment.crossing? := by
  have told := Run.tones_useSlots (pacer.slotsIn time) ⟨pacer.state, machine, report⟩ settled
  rw [← runFor, ran] at told
  exact told rfl

/-- Slots up to a refresh and the refresh itself, with what is told at some moments behind them. -/
private theorem tones_upToRefresh {run : Run} (settled : machine.tone = none)
    (ran : pacer.runFor pacer.untilRefresh machine report = (run, none)) :
    run.refresh.machine.tone = none ∧
      ∀ rest : List Moment,
        run.refresh.report.tones.toList ++ rest.filterMap Moment.crossing? =
          report.tones.toList ++
            (Run.slotMoments (pacer.slotsIn pacer.untilRefresh) (pacer.runOf machine) ++
              .refresh run.unreported :: rest).filterMap Moment.crossing? := by
  obtain ⟨settledThen, told⟩ := tones_runFor settled ran
  obtain ⟨tone, toldAtRefresh⟩ := run.tones_refresh
  have sound : (Moment.refresh run.unreported).after.sound = run.refresh.sound := by
    change run.unreported.refresh.machine.timers.sound = run.refresh.machine.timers.sound
    rw [Run.timers_refresh, Run.timers_refresh]
    rfl
  refine ⟨tone.trans settledThen, fun rest => ?_⟩
  rw [List.filterMap_append, Moment.crossings_cons, sound, toldAtRefresh, told]
  simp only [List.append_assoc]
  rfl

theorem Passes.tones (passes : Passes pacer machine report nanoseconds moments ticked)
    (settled : machine.tone = none) (finished : ticked.result = .ok last) :
    ticked.machine.tone = none ∧
      last.tones.toList = report.tones.toList ++ moments.filterMap Moment.crossing? := by
  induction passes with
  | rested pacer machine report nanoseconds run short ran =>
      cases finished
      exact tones_runFor settled ran
  | failed pacer machine report nanoseconds before run fault slice ran => cases finished
  | ended pacer machine report more run ran halted =>
      cases finished
      obtain ⟨settledThen, told⟩ := tones_upToRefresh settled ran
      exact ⟨settledThen, (List.append_nil _).symm.trans (told [])⟩
  | wentOn pacer machine report more run moments ticked ran runs behind ih =>
      obtain ⟨settledThen, told⟩ := tones_upToRefresh settled ran
      obtain ⟨settledLast, toldBehind⟩ := ih settledThen finished
      exact ⟨settledLast, toldBehind.trans (told moments)⟩

theorem tones_tick (settled : machine.tone = none)
    (finished : (pacer.tick machine nanoseconds).result = .ok report) :
    (pacer.tick machine nanoseconds).machine.tone = none ∧
      report.tones.toList = (pacer.moments machine nanoseconds).filterMap Moment.crossing? := by
  by_cases halted : pacer.state = .halted
  · rw [tick_of_halted halted] at finished ⊢
    cases finished
    rw [moments_of_halted halted]
    exact ⟨settled, rfl⟩
  · exact (passes_tick halted machine nanoseconds).tones settled finished

end Pacer

/-! ### Whole runs -/

/-- The tones that the result of a stretch of time tells; a fault tells none. -/
def tonesTold : Except Fault Report → List Tone
  | .ok report => report.tones.toList
  | .error _ => []

namespace Course

/-- All tones told so far, in order. -/
def tones (course : Course) : List Tone :=
  course.results.flatMap tonesTold

theorem results_kept (course : Course) (events : List Event) :
    course.results <+: (course.follow events).results := by
  induction events generalizing course with
  | nil => exact List.prefix_rfl
  | cons event rest ih =>
      refine List.IsPrefix.trans ?_ (ih (course.meet event))
      cases event with
      | elapse nanoseconds => exact List.prefix_append _ _
      | press key => exact List.prefix_rfl
      | release key => exact List.prefix_rfl

theorem tones_meet {course : Course} (settled : course.machine.tone = none) (event : Event)
    (faultless : ∀ result ∈ (course.meet event).results, result.isOk = true) :
    (course.meet event).machine.tone = none ∧
      (course.meet event).tones =
        course.tones ++ (course.momentsOf event).filterMap Moment.crossing? := by
  cases event with
  | elapse nanoseconds =>
      cases finished : (course.pacer.tick course.machine nanoseconds).result with
      | error fault =>
          have ok := faultless (.error fault) (by
            rw [meet, finished]
            exact List.mem_append_right _ (List.mem_singleton_self _))
          cases ok
      | ok report =>
          obtain ⟨settledThen, told⟩ := Pacer.tones_tick settled finished
          refine ⟨settledThen, ?_⟩
          rw [tones, meet, List.flatMap_append, finished, List.flatMap_singleton, momentsOf, ← told]
          rfl
  | press key | release key =>
      refine ⟨settled, ?_⟩
      rw [momentsOf, List.filterMap_cons_none (Moment.crossing?_of_same rfl), List.filterMap_nil,
        List.append_nil]
      rfl

theorem tones_follow {course : Course} (settled : course.machine.tone = none)
    (events : List Event)
    (faultless : ∀ result ∈ (course.follow events).results, result.isOk = true) :
    (course.follow events).tones =
      course.tones ++ (course.moments events).filterMap Moment.crossing? := by
  induction events generalizing course with
  | nil => exact (List.append_nil _).symm
  | cons event rest ih =>
      have faultlessHere : ∀ result ∈ (course.meet event).results, result.isOk = true :=
        fun result member =>
          faultless result (((course.meet event).results_kept rest).subset member)
      obtain ⟨settledThen, told⟩ := tones_meet settled event faultlessHere
      rw [moments, List.filterMap_append, ← List.append_assoc, ← told]
      exact ih settledThen faultless

private theorem takeTurns_behind_stop {tones : List Tone}
    (takeTurns : (Tone.stop :: tones).IsChain (· ≠ ·)) :
    (∀ tone ∈ tones.head?, tone = .start) ∧ tones.IsChain (· ≠ ·) := by
  cases tones with
  | nil => exact ⟨fun _ member => (nomatch member), .nil⟩
  | cons first rest =>
      obtain ⟨other, behind⟩ := List.isChain_cons_cons.mp takeTurns
      refine ⟨?_, behind⟩
      intro tone same
      cases same
      cases first with
      | start => rfl
      | stop => exact absurd rfl other

private theorem getLast?_eq_start_iff {tones : List Tone} {run : Run}
    (atEnd : tones.getLast?.getD .stop = run.toneNow) :
    tones.getLast? = some .start ↔ run.sound ≠ 0 := by
  have starts : run.toneNow = .start ↔ run.sound ≠ 0 := by
    unfold Run.toneNow
    by_cases silent : run.sound = 0 <;> simp [silent]
  rw [← starts, ← atEnd]
  cases tones.getLast? <;> simp

/-- The tones of a whole run are exact. -/
structure TellsTones (start : Course) (events : List Event) : Prop where
  /-- The moments are all that happens between the start and the end. -/
  unfolds : Unfolds start.run (start.moments events) (start.follow events).run
  /-- Every crossing of the sound timer is told once, in order, and nothing else is. -/
  eachOnce : (start.follow events).tones = (start.moments events).filterMap Moment.crossing?
  /-- A crossing is due to a refresh, to Fx18 or to 00FD. -/
  causes : ∀ moment ∈ start.moments events, moment.SoundStep
  first : ∀ tone ∈ (start.follow events).tones.head?, tone = .start
  takeTurns : (start.follow events).tones.IsChain (· ≠ ·)
  last : (start.follow events).tones.getLast? = some .start ↔ (start.follow events).run.sound ≠ 0
  /-- Nothing is told only if the sound timer is zero at every moment. -/
  silent : (start.follow events).tones = [] ↔
    ∀ moment ∈ start.moments events, moment.after.sound = 0

theorem tones_exact (rate : UInt32) (profile : Profile) (filter : Filter) (tape : Tape)
    (source : ProgramSource) (events : List Event)
    (faultless : ∀ result ∈ ((boot rate profile filter tape source).follow events).results,
      result.isOk = true) :
    (boot rate profile filter tape source).TellsTones events := by
  let fresh := Machine.ofProfile profile filter tape
  have settled : (boot rate profile filter tape source).machine.tone = none :=
    fresh.load_sameBut source .tone (by decide)
  have silent : (boot rate profile filter tape source).run.sound = 0 :=
    congrArg Timers.sound (fresh.load_sameBut source .timers (by decide))
  have told := tones_follow settled events faultless
  rw [show (boot rate profile filter tape source).tones = [] from rfl, List.nil_append] at told
  have unfolds := (boot rate profile filter tape source).unfolds events
  obtain ⟨takeTurns, atEnd⟩ := unfolds.crossings
  have silentIff := unfolds.no_crossing_iff silent
  rw [← told] at takeTurns atEnd silentIff
  rw [Run.toneNow, if_pos silent] at takeTurns atEnd
  obtain ⟨first, alternate⟩ := takeTurns_behind_stop takeTurns
  exact ⟨unfolds, told, fun moment _ => moment.soundStep, first, alternate,
    getLast?_eq_start_iff atEnd, silentIff⟩

/-- A tone is started and stopped, and another one started, which stops at a refresh. The third one
stops with the program. -/
def threeBeeps : ProgramSource :=
  ⟨[0x60, 0x01, 0xF0, 0x18, 0x61, 0x00, 0xF1, 0x18, 0xF0, 0x18, 0x71, 0x01, 0x71, 0x01, 0x71, 0x01,
    0x71, 0x01, 0x71, 0x01, 0xF0, 0x18, 0x00, 0xFD], none⟩

theorem tones_exact_threeBeeps :
    let start := boot 600 (Profile.ofPlatform "beeps" .superChip) .none ⟨fun _ => 0, 0⟩ threeBeeps
    let events := [Event.elapse 20000000, .press 3, .elapse 10000000]
    (∀ result ∈ (start.follow events).results, result.isOk = true) ∧
      (start.follow events).tones = [.start, .stop, .start, .stop, .start, .stop] ∧
      start.TellsTones events := by
  intro start events
  have ran : (∀ result ∈ (start.follow events).results, result.isOk = true) ∧
      (start.follow events).tones = [.start, .stop, .start, .stop, .start, .stop] := by
    decide +kernel
  exact ⟨ran.1, ran.2, tones_exact 600 _ .none ⟨fun _ => 0, 0⟩ threeBeeps events ran.1⟩

end Course
end Chip8
