import Chip8.Proofs.Glow
import Chip8.Proofs.HeldDraw
import Mathlib.Data.List.Forall2

set_option autoImplicit false

/-!
The filter of the screen is for the eye only. A machine made plain, without glow and without a
filter, runs like the machine: it carries out the same instructions with the same results
(`step_plain`), uses its slots and its refreshes in the same way (`mirrored_plain`), and so comes
to the same in any stretch of time. To change the filter changes nothing of the plain machine.

Main statement: `filters_unseen`, two machines that differ in their filters stay the same but for
what glows.
-/

namespace Chip8

/-! ### Machines -/

namespace Machine

def plain (machine : Machine) : Machine :=
  { machine with screen := machine.screen.plain }

variable (machine : Machine)

theorem drawSprite_plain (request : DrawRequest) :
    machine.plain.drawSprite request = (machine.drawSprite request).plain := by
  have drawn : machine.plain.screen.draw (machine.plain.sprite request)
      machine.plain.dialect.spritesWrap =
        ((machine.screen.draw (machine.sprite request) machine.dialect.spritesWrap).1.plain,
          (machine.screen.draw (machine.sprite request) machine.dialect.spritesWrap).2) :=
    machine.screen.draw_plain (machine.sprite request) machine.dialect.spritesWrap
  rw [drawSprite, drawn]
  rfl

theorem drawOrWait_plain (request : DrawRequest) :
    machine.plain.drawOrWait request =
      ((machine.drawOrWait request).1.plain, (machine.drawOrWait request).2) := by
  have waits : machine.plain.dialect = machine.dialect := rfl
  rw [drawOrWait, waits, drawSprite_plain, drawOrWait]
  cases machine.dialect.drawAwaitsRefresh <;> rfl

private theorem withScreen_plain {plainScreen screen : Screen} (same : plainScreen = screen.plain) :
    ({ machine.plain with screen := plainScreen }, Outcome.proceed) =
      (({ machine with screen := screen }).plain, Outcome.proceed) := by
  rw [same]
  rfl

/-- An instruction does to the plain machine what it does to the machine. -/
theorem perform_plain (instruction : Instruction) :
    machine.plain.perform instruction =
      ((machine.perform instruction).1.plain, (machine.perform instruction).2) := by
  cases instruction with
  | clear => exact machine.withScreen_plain machine.screen.clear_plain
  | tallScreen =>
      exact machine.withScreen_plain
        (congrArg (Screen.setResolution · .tall) machine.screen.clear_plain)
  | scrollDown rows => exact machine.withScreen_plain (machine.screen.scrollDown_plain rows.val)
  | scrollRight => exact machine.withScreen_plain (machine.screen.scrollRight_plain 4)
  | scrollLeft => exact machine.withScreen_plain (machine.screen.scrollLeft_plain 4)
  | draw x y rows => exact machine.drawOrWait_plain _
  | ret =>
      rw [perform, perform, returnFromCall, returnFromCall]
      cases waiting : machine.stack with
      | nil => simp only [plain, waiting]
      | cons back rest => simp only [plain, waiting]
  | skip test =>
      have same : machine.plain.holds test = machine.holds test := by
        cases test <;> rfl
      rw [perform, perform, same]
      cases machine.holds test <;> rfl
  | combine operation x y =>
      have applied : operation.apply machine.plain.dialect (machine.plain.register x)
          (machine.plain.register y) =
            operation.apply machine.dialect (machine.register x) (machine.register y) := rfl
      rw [perform, perform, combine, applied, combine]
      rcases operation.apply machine.dialect (machine.register x) (machine.register y) with
        ⟨result, none | value⟩ <;> rfl
  | addIndex x =>
      have tells : machine.plain.dialect = machine.dialect := rfl
      simp only [perform, addIndex, tells]
      cases machine.dialect.indexSetsFlag <;> rfl
  | store x =>
      have advances : machine.plain.dialect = machine.dialect := rfl
      simp only [perform, storeRegisters, moveIndex, advances]
      cases machine.dialect.indexAdvance <;> rfl
  | fetch x =>
      have advances : machine.plain.dialect = machine.dialect := rfl
      simp only [perform, fetchRegisters, moveIndex, advances]
      cases machine.dialect.indexAdvance <;> rfl
  | _ => rfl

theorem step_plain : machine.plain.step = (machine.step.1.plain, machine.step.2) := by
  have same : machine.plain.instruction? = machine.instruction? := rfl
  cases next : machine.instruction? with
  | none =>
      rw [step_of_no_instruction next, step_of_no_instruction (same.trans next)]
      rfl
  | some instruction =>
      have performed := machine.advance.perform_plain instruction
      rw [step_of_instruction next, step_of_instruction (same.trans next)]
      exact congrArg (fun ended => (ended.1, Except.ok ended.2)) performed

theorem takeKey?_plain (x : Register) :
    machine.plain.takeKey? x = (machine.takeKey? x).map plain := by
  unfold takeKey?
  rw [Option.map_map]
  rfl

theorem prepared_plain : machine.plain.prepared = machine.prepared.plain := by
  unfold prepared
  by_cases marked : (machine.platform.hasTallScreen &&
      machine.memory.word Memory.programStart == tallScreenMark) = true
  · rw [if_pos marked]
    exact if_pos marked
  · rw [if_neg marked]
    exact if_neg marked

theorem load_plain (source : ProgramSource) :
    machine.plain.load source = ((machine.load source).1.plain, (machine.load source).2) := by
  have shared : machine.plain.memory = machine.memory := rfl
  rw [load, shared, load]
  rcases machine.memory.load source with ⟨memory, fault | length⟩
  · rfl
  · exact congrArg (·, Except.ok length) (prepared_plain { machine with memory := memory })

end Machine

/-! ### Runs -/

def Report.plain (report : Report) : Report :=
  { report with frame := report.frame.map Frame.plain }

theorem Report.plain_append (earlier later : Report) :
    (earlier ++ later).plain = earlier.plain ++ later.plain := by
  change (earlier.append later).plain = earlier.plain.append later.plain
  simp only [append, plain, Option.map_or]

namespace Run

def plain (run : Run) : Run :=
  run.image Machine.plain Report.plain

theorem follow_plain (run : Run) (outcome : Outcome) :
    run.plain.follow outcome = (run.follow outcome).plain := by
  cases outcome with
  | exit =>
      have reported := run.report.plain_append (toneReport (run.machine.timers.setSound 0).2)
      exact (Run.mk.injEq ..).mpr ⟨rfl, rfl, reported.symm⟩
  | _ => rfl

theorem execute_plain (run : Run) : run.plain.execute = (run.execute.1.plain, run.execute.2) := by
  rcases run with ⟨state, machine, report⟩
  simp only [plain, image, execute, machine.step_plain]
  rcases machine.step with ⟨stepped, fault | outcome⟩
  · rfl
  · have reported := report.plain_append
      (instructionReport stepped.takeTone.2 (underflowsOf outcome))
    have followed := follow_plain
      ⟨state, stepped.takeTone.1,
        report ++ instructionReport stepped.takeTone.2 (underflowsOf outcome)⟩ outcome
    simp only [plain, image, reported] at followed
    exact congrArg (·, none) followed

theorem slot?_plain (run : Run) :
    run.plain.slot? = run.slot?.map fun used => (used.1.plain, used.2) := by
  have executed := run.execute_plain
  rcases run with ⟨state, machine, report⟩
  cases state with
  | halted => rfl
  | awaitingRefresh request => rfl
  | awaitingKey x =>
      have taken := machine.takeKey?_plain x
      simp only [slot?, plain, image, taken, Option.map_map]
      rfl
  | running => exact congrArg some executed

theorem drawWaiting_plain (run : Run) : run.plain.drawWaiting = run.drawWaiting.plain := by
  rcases run with ⟨state, machine, report⟩
  cases state with
  | awaitingRefresh request =>
      exact congrArg (Run.mk .running · report.plain) (machine.drawSprite_plain request)
  | _ => rfl

theorem refresh_plain (run : Run) : run.plain.refresh = run.refresh.plain := by
  have drawn : run.plain.pictured = run.pictured.plain :=
    drawWaiting_plain
      { run with machine := { run.machine with timers := run.machine.timers.decrement.1 } }
  have aged : run.pictured.plain.machine.screen.age = run.pictured.machine.screen.age.plain :=
    run.pictured.machine.screen.age_plain
  have framed : run.pictured.plain.machine.screen.frame = run.pictured.machine.screen.frame.plain :=
    run.pictured.machine.screen.frame_plain
  have reported := run.report.plain_append
    (refreshReport run.machine.timers.decrement.2 run.pictured.machine.screen.frame)
  rw [refresh_eq, drawn, aged, framed, refresh_eq]
  exact (Run.mk.injEq ..).mpr ⟨rfl, rfl, reported.symm⟩

theorem mirrored_plain : Mirrored Machine.plain Report.plain :=
  ⟨slot?_plain, refresh_plain⟩

end Run

theorem Pacer.tick_plain (pacer : Pacer) (machine : Machine) (nanoseconds : Nat) :
    pacer.tick machine.plain nanoseconds =
      (pacer.tick machine nanoseconds).image Machine.plain Report.plain := by
  by_cases halted : pacer.state = .halted
  · rw [tick_of_halted halted, tick_of_halted halted]
    rfl
  · rw [tick_of_running halted, tick_of_running halted]
    exact through_image Run.mirrored_plain pacer nanoseconds machine Report.none

/-! ### Courses with changes of the filter -/

/-- What happens to a machine that is watched: events, and changes of the filter. -/
inductive Viewing where
  | meet (event : Event)
  | switch (filter : Filter)
  deriving DecidableEq

def Viewing.event? : Viewing → Option Event
  | .meet event => some event
  | .switch _ => none

namespace Course

def view (course : Course) : Viewing → Course
  | .meet event => course.meet event
  | .switch filter =>
      { course with
        machine := { course.machine with screen := course.machine.screen.setFilter filter } }

def watch (course : Course) (viewings : List Viewing) : Course :=
  viewings.foldl view course

def plain (course : Course) : Course :=
  ⟨course.pacer, course.machine.plain, course.results.map fun result => result.map Report.plain⟩

theorem plain_boot (rate : UInt32) (profile : Profile) (filter : Filter) (tape : Tape)
    (source : ProgramSource) :
    (boot rate profile filter tape source).plain = boot rate profile .none tape source := by
  have blank : (Screen.blank filter).plain = Screen.blank .none :=
    congrArg (Screen.mk · .low .none) Grid.plain_dark
  have started : (Machine.ofProfile profile filter tape).plain =
      Machine.ofProfile profile .none tape :=
    congrArg (fun screen => { Machine.ofProfile profile .none tape with screen := screen }) blank
  have loaded := (Machine.ofProfile profile filter tape).load_plain source
  rw [started] at loaded
  have machines := congrArg Prod.fst loaded
  exact congrArg (fun machine => Course.mk (.ofRate rate) machine []) machines.symm

theorem plain_meet (course : Course) (event : Event) :
    course.plain.meet event = (course.meet event).plain := by
  cases event with
  | elapse nanoseconds =>
      have ticked := course.pacer.tick_plain course.machine nanoseconds
      simp only [meet, plain, ticked, List.map_append]
      rfl
  | press key => rfl
  | release key => rfl

/-- A course with changes of the filter is, but for what glows, the course without a filter. -/
theorem plain_watch (course : Course) (viewings : List Viewing) :
    (course.watch viewings).plain = course.plain.follow (viewings.filterMap Viewing.event?) := by
  induction viewings generalizing course with
  | nil => rfl
  | cons viewing rest ih =>
      cases viewing with
      | meet event =>
          have later : ((course.meet event).watch rest).plain = _ := ih (course.meet event)
          rw [← plain_meet] at later
          exact later
      | switch filter =>
          exact ih (course.view (.switch filter))

end Course

/-! ### What stays the same -/

/-- Two screens have the same resolution, and the same cells of theirs are on. -/
def Screen.SameLights (left right : Screen) : Prop :=
  left.resolution = right.resolution ∧
    ∀ column row, (left.grid.cell column row).on = (right.grid.cell column row).on

/-- A picture but for its filter and for what glows. -/
def Frame.lights (frame : Frame) : Resolution × Array Bool :=
  (frame.resolution, frame.pixels.map Pixel.on)

structure Report.SameButGlow (left right : Report) : Prop where
  instructions : left.instructions = right.instructions
  frames : left.frames = right.frames
  tones : left.tones = right.tones
  underflows : left.underflows = right.underflows
  picture : left.frame.map Frame.lights = right.frame.map Frame.lights

/-- Two stretches of time ended with the same fault, or with reports that are the same but for
what glows. -/
inductive SameResult : Except Fault Report → Except Fault Report → Prop where
  | failed (fault : Fault) : SameResult (.error fault) (.error fault)
  | reported (left right : Report) (same : left.SameButGlow right) :
      SameResult (.ok left) (.ok right)

theorem Screen.sameLights_of_plain {left right : Screen} (same : left.plain = right.plain) :
    left.SameLights right := by
  have resolution := congrArg Screen.resolution same
  refine ⟨resolution, fun column row => ?_⟩
  have cells := congrArg (fun screen => (screen.grid.cell column row).on) same
  simp only [Screen.plain, Grid.cell_plain] at cells
  exact cells

theorem Machine.sameBut_of_plain {left right : Machine} (same : left.plain = right.plain) :
    left.SameBut [.screen] right := by
  have plainly (machine : Machine) : machine.SameBut [.screen] machine.plain :=
    sameBut_of_takeOver rfl
  intro part untouched
  have leftSame := plainly left part untouched
  rw [same] at leftSame
  exact leftSame.trans (plainly right part untouched).symm

theorem Frame.lights_plain (frame : Frame) : frame.plain.lights = frame.lights :=
  congrArg (Prod.mk frame.resolution) Array.map_map

theorem Report.sameButGlow_of_plain {left right : Report} (same : left.plain = right.plain) :
    left.SameButGlow right := by
  have picture (report : Report) :
      report.plain.frame.map Frame.lights = report.frame.map Frame.lights := by
    rw [plain, Option.map_map]
    exact Option.map_congr fun frame _ => frame.lights_plain
  obtain ⟨instructions, frames, tones, underflows, _⟩ := Report.mk.inj same
  refine ⟨instructions, frames, tones, underflows, ?_⟩
  rw [← picture left, same, picture right]

theorem sameResult_of_plain {left right : Except Fault Report}
    (same : left.map Report.plain = right.map Report.plain) : SameResult left right := by
  cases left with
  | error fault =>
      cases right with
      | error other =>
          cases same
          exact .failed fault
      | ok report => cases same
  | ok report =>
      cases right with
      | error fault => cases same
      | ok other => exact .reported _ _ (Report.sameButGlow_of_plain (Except.ok.inj same))

namespace Course

/-- The filter is for the eye only. Two machines that are made for the same program and meet the
same events, but start with any two filters and are switched to any others at any time, go through
the same: after every stretch of time their pacers agree, the machines agree in all but their
screens, and the same cells of the screens are on. Every stretch ends with the same fault or with
reports that agree but for what glows in the picture. -/
theorem filters_unseen (rate : UInt32) (profile : Profile) (leftFilter rightFilter : Filter)
    (tape : Tape) (source : ProgramSource) (left right : List Viewing)
    (sameEvents : left.filterMap Viewing.event? = right.filterMap Viewing.event?) :
    let leftCourse := (boot rate profile leftFilter tape source).watch left
    let rightCourse := (boot rate profile rightFilter tape source).watch right
    leftCourse.pacer = rightCourse.pacer ∧
      leftCourse.machine.SameBut [.screen] rightCourse.machine ∧
      leftCourse.machine.screen.SameLights rightCourse.machine.screen ∧
      List.Forall₂ SameResult leftCourse.results rightCourse.results := by
  intro leftCourse rightCourse
  have same : leftCourse.plain = rightCourse.plain := by
    rw [plain_watch, plain_watch, plain_boot, plain_boot, sameEvents]
  have pacers := congrArg Course.pacer same
  have machines : leftCourse.machine.plain = rightCourse.machine.plain :=
    congrArg Course.machine same
  have results := congrArg Course.results same
  refine ⟨pacers, Machine.sameBut_of_plain machines,
    Screen.sameLights_of_plain (congrArg Machine.screen machines), ?_⟩
  simp only [plain, ← List.forall₂_eq_eq_eq, List.forall₂_map_left_iff,
    List.forall₂_map_right_iff] at results
  exact results.imp fun _ _ => sameResult_of_plain

/-- A digit is drawn, wiped and drawn again, over and over. -/
def blinking : ProgramSource :=
  ⟨[0xD0, 0x15, 0x00, 0xE0, 0xD0, 0x15, 0x12, 0x00], none⟩

def fadingViews : List Viewing :=
  [.meet (.elapse 20000000), .meet (.press 3), .switch .fixFlicker, .meet (.elapse 90000000)]

def plainViews : List Viewing :=
  [.meet (.elapse 20000000), .switch .none, .meet (.press 3), .meet (.elapse 90000000)]

theorem filters_unseen_blinking :
    fadingViews.filterMap Viewing.event? = plainViews.filterMap Viewing.event? ∧
      ((boot 600 (Profile.ofPlatform "blink" .modern) .fade ⟨fun _ => 0, 0⟩ blinking).watch
          fadingViews).machine.SameBut [.screen]
        ((boot 600 (Profile.ofPlatform "blink" .modern) .fixFlicker ⟨fun _ => 0, 0⟩ blinking).watch
          plainViews).machine := by
  have sameEvents :
      fadingViews.filterMap Viewing.event? = plainViews.filterMap Viewing.event? := by
    decide
  exact ⟨sameEvents, (filters_unseen 600 (Profile.ofPlatform "blink" .modern) .fade .fixFlicker
    ⟨fun _ => 0, 0⟩ blinking fadingViews plainViews sameEvents).2.1⟩

end Course
end Chip8
