import Chip8.Proofs.Course

set_option autoImplicit false

/-!
Draws that wait for the next refresh. From the instruction on, only the keypad can change
(`HoldsDraw`), and so the refresh draws what the instruction would have drawn at once; the picture
is taken behind the draw and before the glow of points gets shorter.

Main statement: `draw_held`, with its bound: no more sprites are drawn than refreshes come up.
-/

namespace Chip8

namespace Machine

/-- What a draw instruction asks for. -/
def drawRequest (machine : Machine) (x y : Register) (rows : Fin 16) : DrawRequest :=
  ⟨machine.register x, machine.register y, UInt8.ofNat rows.val⟩

/-- The same machine in a dialect that draws at once. -/
def drawingAtOnce (machine : Machine) : Machine :=
  { machine with dialect := { machine.dialect with drawAwaitsRefresh := false } }

variable {machine : Machine} {x y : Register} {rows : Fin 16}

theorem step_draw_late (draws : machine.instruction? = some (.draw x y rows))
    (late : machine.dialect.drawAwaitsRefresh = true) :
    machine.step = (machine.advance, .ok (.awaitRefresh (machine.drawRequest x y rows))) := by
  rw [step_of_instruction draws, perform, drawOrWait, if_pos]
  · rfl
  · exact late

theorem step_draw_atOnce (draws : machine.instruction? = some (.draw x y rows)) :
    machine.drawingAtOnce.step.1 =
      machine.drawingAtOnce.advance.drawSprite (machine.drawRequest x y rows) := by
  have drawsAtOnce : machine.drawingAtOnce.instruction? = some (.draw x y rows) := draws
  rw [step_of_instruction drawsAtOnce]
  rfl

end Machine

namespace Run

/-- The run of which a refresh takes the picture: the timers have counted down, and the waiting
sprite is drawn. -/
def pictured (run : Run) : Run :=
  { run with machine := { run.machine with timers := run.machine.timers.decrement.1 } }.drawWaiting

theorem refresh_eq (run : Run) :
    run.refresh =
      ⟨run.pictured.state,
        { run.pictured.machine with screen := run.pictured.machine.screen.age },
        run.report ++
          refreshReport run.machine.timers.decrement.2 run.pictured.machine.screen.frame⟩ := by
  rcases run with ⟨state, machine, report⟩
  cases state <;> rfl

/-- A draw is waiting, and since it was issued nothing but the keypad has changed. -/
structure HoldsDraw (run : Run) (issued : Machine) (request : DrawRequest) : Prop where
  state : run.state = .awaitingRefresh request
  machine : run.machine = { issued.advance with keypad := run.machine.keypad, tone := none }

variable {run : Run} {issued : Machine} {x y : Register} {rows : Fin 16}

theorem slot?_of_draw (runs : run.state = .running)
    (draws : run.machine.instruction? = some (.draw x y rows))
    (late : run.machine.dialect.drawAwaitsRefresh = true) :
    run.slot? =
      some (⟨.awaitingRefresh (run.machine.drawRequest x y rows),
        { run.machine.advance with tone := none },
        run.report ++ instructionReport run.machine.tone 0⟩, none) := by
  rcases run with ⟨state, machine, report⟩
  cases runs
  simp only [slot?, execute, Machine.step_draw_late draws late]
  rfl

/-- What the refresh takes a picture of is what the draw would have left at once, but for the time
that has passed. -/
theorem HoldsDraw.pictured_eq (draws : issued.instruction? = some (.draw x y rows))
    (holds : run.HoldsDraw issued (issued.drawRequest x y rows)) :
    run.pictured =
      ⟨.running,
        { issued.drawingAtOnce.step.1 with
          dialect := issued.dialect
          timers := issued.timers.decrement.1
          keypad := run.machine.keypad
          tone := none },
        run.report⟩ := by
  rcases run with ⟨state, machine, report⟩
  obtain ⟨waits, same⟩ := holds
  cases waits
  rw [Machine.step_draw_atOnce draws, pictured, same]
  rfl

end Run

/-! ### The moments up to the refresh -/

theorem Moment.holdsDraw_after {moment : Moment} {issued : Machine} {request : DrawRequest}
    (holds : moment.found.HoldsDraw issued request) (noRefresh : moment.isRefresh = false) :
    moment.after.HoldsDraw issued request := by
  obtain ⟨state, machine⟩ := holds
  cases moment with
  | refresh run => cases noRefresh
  | slot run =>
      have waits : run.state = .awaitingRefresh request := state
      rw [after_of_blocked (Run.slot?_of_awaitingRefresh waits)]
      exact ⟨state, machine⟩
  | press key run =>
      refine ⟨state, ?_⟩
      rw [after]
      dsimp only
      rw [show run.machine = _ from machine]
  | release key run =>
      refine ⟨state, ?_⟩
      rw [after]
      dsimp only
      rw [show run.machine = _ from machine]

theorem Unfolds.holdsDraw {run last : Run} {moments : List Moment} {issued : Machine}
    {request : DrawRequest} (unfolds : Unfolds run moments last)
    (holds : run.HoldsDraw issued request)
    (noRefresh : ∀ moment ∈ moments, moment.isRefresh = false) :
    (∀ moment ∈ moments, moment.found.HoldsDraw issued request) ∧ last.HoldsDraw issued request :=
  unfolds.keeps (fun run => run.HoldsDraw issued request)
    (fun moment member found => moment.holdsDraw_after found (noRefresh moment member)) holds

/-! ### Counting sprites -/

def Instruction.isDraw : Instruction → Bool
  | .draw _ _ _ => true
  | _ => false

namespace Moment

/-- A slot that goes to a draw instruction. -/
def isDraw : Moment → Bool
  | .slot run => run.state = .running && run.machine.instruction?.any Instruction.isDraw
  | _ => false

/-- The sprites that are drawn at a moment: by an instruction that draws at once, or by a refresh
for which a draw waits. -/
def sprites (moment : Moment) : Nat :=
  match moment with
  | .slot run => if moment.isDraw ∧ run.machine.dialect.drawAwaitsRefresh = false then 1 else 0
  | .refresh run =>
      match run.state with
      | .awaitingRefresh _ => 1
      | _ => 0
  | _ => 0

theorem sprites_le (moment : Moment)
    (late : moment.found.machine.dialect.drawAwaitsRefresh = true) :
    moment.sprites ≤ moment.isRefresh.toNat := by
  cases moment with
  | press key run => exact Nat.le_refl 0
  | release key run => exact Nat.le_refl 0
  | slot run =>
      rw [sprites, if_neg]
      · exact Nat.le_refl 0
      · rintro ⟨_, early⟩
        exact Bool.noConfusion (late.symm.trans early)
  | refresh run =>
      rw [sprites]
      split
      · exact Nat.le_refl 1
      · exact Nat.zero_le 1

end Moment

/-- How many draws a run can issue before the next refresh. -/
def Run.openDraws (run : Run) : Nat :=
  match run.state with
  | .awaitingRefresh _ => 0
  | _ => 1

theorem Run.openDraws_le (run : Run) : run.openDraws ≤ 1 := by
  unfold openDraws
  split
  · exact Nat.zero_le 1
  · exact Nat.le_refl 1

namespace Moment

theorem slot_isDraw {run : Run} (isDraw : (Moment.slot run).isDraw = true) :
    run.state = .running ∧
      ∃ x y rows, run.machine.instruction? = some (.draw x y rows) := by
  obtain ⟨runs, draws⟩ := Bool.and_eq_true_iff.mp isDraw
  refine ⟨of_decide_eq_true runs, ?_⟩
  cases next : run.machine.instruction? with
  | none => rw [next] at draws; cases draws
  | some instruction =>
      rw [next] at draws
      cases instruction with
      | draw x y rows => exact ⟨x, y, rows, rfl⟩
      | _ => cases draws

/-- A draw closes a run for further draws, and a refresh opens it again. -/
theorem isDraw_add_openDraws_le (moment : Moment)
    (late : moment.found.machine.dialect.drawAwaitsRefresh = true) :
    moment.isDraw.toNat + moment.after.openDraws ≤
      moment.isRefresh.toNat + moment.found.openDraws := by
  cases moment with
  | press key run => exact Nat.le_refl _
  | release key run => exact Nat.le_refl _
  | refresh run =>
      have few := (Moment.refresh run).after.openDraws_le
      change 0 + _ ≤ 1 + _
      omega
  | slot run =>
      cases isDraw : (Moment.slot run).isDraw with
      | true =>
          obtain ⟨runs, x, y, rows, draws⟩ := slot_isDraw isDraw
          have opened : run.openDraws = 1 := by rw [Run.openDraws, runs]
          have closed : (Moment.slot run).after.openDraws = 0 := by
            rw [after, Run.slot?_of_draw runs draws late]
            rfl
          rw [closed, found, opened]
          exact Nat.le_refl 1
      | false =>
          change 0 + _ ≤ 0 + run.openDraws
          rw [Nat.zero_add, Nat.zero_add]
          cases state : run.state with
          | awaitingRefresh request =>
              rw [after_of_blocked (Run.slot?_of_awaitingRefresh state)]
              exact Nat.le_refl _
          | _ =>
              have opened : run.openDraws = 1 := by rw [Run.openDraws, state]
              rw [opened]
              exact (Moment.slot run).after.openDraws_le

end Moment

/-- In a dialect that draws late, no more sprites are drawn than refreshes come up, and at most one
more draw is issued. -/
theorem Unfolds.sprites_le {run last : Run} {moments : List Moment}
    (unfolds : Unfolds run moments last) (late : run.machine.dialect.drawAwaitsRefresh = true) :
    total Moment.sprites moments ≤ moments.countP Moment.isRefresh ∧
      moments.countP Moment.isDraw + last.openDraws ≤
        moments.countP Moment.isRefresh + run.openDraws := by
  induction unfolds with
  | nil run => exact ⟨Nat.le_refl _, Nat.le_refl _⟩
  | cons run moment rest last found follows ih =>
      rw [← found] at late
      have lateAfter : moment.after.machine.dialect.drawAwaitsRefresh = true := by
        rw [moment.dialect_after]
        exact late
      have drawnHere := moment.sprites_le late
      have issuedHere := moment.isDraw_add_openDraws_le late
      obtain ⟨drawn, issued⟩ := ih lateAfter
      rw [← found, total, Moment.countP_cons, Moment.countP_cons]
      constructor <;> omega

/-! ### The draw at the refresh -/

theorem Unfolds.dialect {run last : Run} {moments : List Moment}
    (unfolds : Unfolds run moments last) :
    (∀ moment ∈ moments, moment.found.machine.dialect = run.machine.dialect) ∧
      last.machine.dialect = run.machine.dialect := by
  apply unfolds.keeps (fun later => later.machine.dialect = run.machine.dialect)
  · intro moment _ same
    exact moment.dialect_after.trans same
  · rfl

/-- A draw that was issued at a slot, the moments up to the next refresh, and what follows. -/
structure DrawnLate (issue : Run) (request : DrawRequest) (between later : List Moment)
    (last : Run) : Prop where
  /-- No slot up to the refresh finds anything but the waiting draw, however often keys change. -/
  waits : ∀ moment ∈ between, moment.found.HoldsDraw issue.machine request
  waitsOn : later = [] → last.HoldsDraw issue.machine request
  /-- The refresh draws the one sprite and takes the picture, and then the machine goes on. But for
  timers and keys the picture is of the machine that has drawn at once. -/
  drawn : ∀ flush rest, later = .refresh flush :: rest →
    flush.HoldsDraw issue.machine request ∧
    total Moment.sprites (.slot issue :: (between ++ [.refresh flush])) = 1 ∧
    flush.pictured =
      ⟨.running,
        { issue.machine.drawingAtOnce.step.1 with
          dialect := issue.machine.dialect
          timers := issue.machine.timers.decrement.1
          keypad := flush.machine.keypad
          tone := none },
        flush.report⟩ ∧
    flush.refresh.report.frame = some flush.pictured.machine.screen.frame ∧
    flush.refresh.machine =
      { flush.pictured.machine with screen := flush.pictured.machine.screen.age } ∧
    flush.refresh.state = .running ∧
    Unfolds flush.refresh.unreported rest last

/-- From the instruction to the refresh one sprite is drawn. -/
theorem total_sprites_of_holdsDraw {issue run flush : Run} {between : List Moment}
    {issued : Machine} {request : DrawRequest} (unfolds : Unfolds run between flush)
    (late : run.machine.dialect.drawAwaitsRefresh = true)
    (lateIssue : issue.machine.dialect.drawAwaitsRefresh = true)
    (noRefresh : ∀ moment ∈ between, moment.isRefresh = false)
    (holds : flush.HoldsDraw issued request) :
    total Moment.sprites (.slot issue :: (between ++ [.refresh flush])) = 1 := by
  have atIssue : (Moment.slot issue).sprites = 0 :=
    Nat.le_zero.mp ((Moment.slot issue).sprites_le lateIssue)
  have inBetween : total Moment.sprites between = 0 := by
    have none : between.countP Moment.isRefresh = 0 := by
      rw [List.countP_eq_zero]
      intro moment member
      exact Bool.eq_false_iff.mp (noRefresh moment member)
    have few := (unfolds.sprites_le late).1
    omega
  have atRefresh : (Moment.refresh flush).sprites = 1 := by
    rw [Moment.sprites, holds.state]
  rw [total, total_append, atIssue, inBetween, total, atRefresh, total]

theorem drawnLate {run last issue : Run} {earlier between later : List Moment} {x y : Register}
    {rows : Fin 16}
    (unfolds : Unfolds run (earlier ++ .slot issue :: (between ++ later)) last)
    (late : run.machine.dialect.drawAwaitsRefresh = true) (runs : issue.state = .running)
    (draws : issue.machine.instruction? = some (.draw x y rows))
    (noRefresh : ∀ moment ∈ between, moment.isRefresh = false) :
    DrawnLate issue (issue.machine.drawRequest x y rows) between later last := by
  have lateHere : issue.machine.dialect.drawAwaitsRefresh = true := by
    have same := unfolds.dialect.1 (.slot issue) (List.mem_append_right _ List.mem_cons_self)
    rw [← late, ← same]
    rfl
  have lateBehind : (Moment.slot issue).after.machine.dialect.drawAwaitsRefresh = true := by
    rw [Moment.dialect_after]
    exact lateHere
  have issued : (Moment.slot issue).after.HoldsDraw issue.machine
      (issue.machine.drawRequest x y rows) := by
    rw [Moment.after, Run.slot?_of_draw runs draws lateHere]
    exact ⟨rfl, rfl⟩
  have follows := unfolds.cut.2
  obtain ⟨atRefresh, first, second⟩ := follows.split
  obtain ⟨held, heldAtRefresh⟩ := first.holdsDraw issued noRefresh
  refine ⟨held, ?_, ?_⟩
  · intro empty
    subst empty
    rw [← second.eq_of_nil]
    exact heldAtRefresh
  · intro flush rest refreshes
    subst refreshes
    obtain ⟨upToRefresh, behind⟩ := follows.cut
    have holds : flush.HoldsDraw issue.machine (issue.machine.drawRequest x y rows) :=
      (upToRefresh.holdsDraw issued noRefresh).2
    have pictured := holds.pictured_eq draws
    have drawnOnce := total_sprites_of_holdsDraw upToRefresh lateBehind lateHere noRefresh holds
    refine ⟨holds, drawnOnce, pictured, ?_, ?_, ?_, behind⟩
    · rw [Run.refresh_eq]
      rfl
    · rw [Run.refresh_eq]
    · rw [Run.refresh_eq, pictured]

/-- In a dialect that draws late, a draw is the draw at once, but at the next refresh; and so at
most one sprite is drawn from one refresh to the next. -/
theorem draw_held {start : Course} (late : start.machine.dialect.drawAwaitsRefresh = true)
    (events : List Event) :
    (∀ earlier issue between later x y rows,
      start.moments events = earlier ++ .slot issue :: (between ++ later) →
      issue.state = .running →
      issue.machine.instruction? = some (.draw x y rows) →
      (∀ moment ∈ between, moment.isRefresh = false) →
      DrawnLate issue (issue.machine.drawRequest x y rows) between later
        (start.follow events).run) ∧
    ∀ earlier stretch later, start.moments events = earlier ++ (stretch ++ later) →
      total Moment.sprites stretch ≤ stretch.countP Moment.isRefresh ∧
      stretch.countP Moment.isDraw ≤ stretch.countP Moment.isRefresh + 1 := by
  have unfolds := start.unfolds events
  refine ⟨?_, ?_⟩
  · intro earlier issue between later x y rows cut runs draws noRefresh
    rw [cut] at unfolds
    exact drawnLate unfolds late runs draws noRefresh
  · intro earlier stretch later cut
    rw [cut] at unfolds
    obtain ⟨found, before, behind⟩ := unfolds.split
    obtain ⟨last, inside, _⟩ := behind.split
    have lateHere : found.machine.dialect.drawAwaitsRefresh = true := by
      rw [before.dialect.2]
      exact late
    obtain ⟨drawn, issued⟩ := inside.sprites_le lateHere
    have few := found.openDraws_le
    exact ⟨drawn, by omega⟩

/-- A program that sets VF, draws the first row of a digit and then counts. -/
def drawingCourse : Course :=
  .boot 180 (Profile.ofPlatform "late" .cosmacVip) .none ⟨fun _ => 0, 0⟩
    ⟨[0x6F, 0x05, 0xD0, 0x01, 0x71, 0x01, 0x12, 0x04], none⟩

def drawingEvents : List Event :=
  [.elapse 9000000, .press 7, .elapse 7666667]

/-- The corner that the digit covers, and VF. -/
def cornerAndFlag (machine : Machine) : Bool × UInt8 :=
  ((machine.screen.pixel 0 0).on, machine.register flagRegister)

private theorem cornerAndFlag_refresh (run : Run) :
    cornerAndFlag run.refresh.machine = cornerAndFlag run.pictured.machine := by
  have inside : 0 * run.pictured.machine.screen.resolution.cellsAcross < 128 ∧
      0 * run.pictured.machine.screen.resolution.cellsDown < 64 := by
    omega
  have aged : run.pictured.machine.screen.age.pixel 0 0 =
      (run.pictured.machine.screen.pixel 0 0).age :=
    run.pictured.machine.screen.grid.cell_map Pixel.age inside
  rw [Run.refresh_eq, cornerAndFlag, aged]
  rfl

private theorem drawingFacts :
    (drawingCourse.moments drawingEvents).map (fun moment => (moment.isSlot, moment.isRefresh)) =
      [(true, false), (true, false), (false, false), (true, false), (false, true)] ∧
    drawingCourse.machine.dialect.drawAwaitsRefresh = true ∧
    ((drawingCourse.moments drawingEvents).tail.head?.map fun moment =>
      (decide (moment.found.state = .running), moment.found.machine.instruction?)) =
        some (true, some (.draw 0 0 1)) ∧
    ((drawingCourse.moments drawingEvents).getLast?.map fun moment =>
      (cornerAndFlag moment.found.machine, cornerAndFlag moment.found.pictured.machine)) =
        some ((false, 5), (true, 0)) := by
  decide +kernel

private theorem drawingMoments : ∃ first issue between flush,
    drawingCourse.moments drawingEvents =
      [first] ++ .slot issue :: (between ++ [.refresh flush]) ∧
    issue.state = .running ∧ issue.machine.instruction? = some (.draw 0 0 1) ∧
    (∀ moment ∈ between, moment.isRefresh = false) ∧
    cornerAndFlag flush.machine = (false, 5) ∧ cornerAndFlag flush.refresh.machine = (true, 0) := by
  obtain ⟨kinds, _, issued, drawn⟩ := drawingFacts
  rcases listed : drawingCourse.moments drawingEvents with
    _ | ⟨first, _ | ⟨second, _ | ⟨third, _ | ⟨fourth, _ | ⟨fifth, _ | ⟨sixth, rest⟩⟩⟩⟩⟩⟩ <;>
    rw [listed] at kinds issued drawn <;> simp at kinds issued drawn
  refine ⟨first, second.found, [third, fourth], fifth.found, ?_, issued.1, issued.2, ?_,
    drawn.1, ?_⟩
  · rw [← Moment.eq_slot kinds.2.1.1, ← Moment.eq_refresh kinds.2.2.2.2.2]
    rfl
  · simp [kinds]
  · rw [cornerAndFlag_refresh]
    exact drawn.2

theorem draw_held_digit :
    drawingCourse.machine.dialect.drawAwaitsRefresh = true ∧
      ∃ first issue between flush,
        drawingCourse.moments drawingEvents =
          [first] ++ .slot issue :: (between ++ [.refresh flush]) ∧
        DrawnLate issue (issue.machine.drawRequest 0 0 1) between [.refresh flush]
          (drawingCourse.follow drawingEvents).run ∧
        cornerAndFlag flush.machine = (false, 5) ∧
        cornerAndFlag flush.refresh.machine = (true, 0) ∧
        total Moment.sprites (drawingCourse.moments drawingEvents) ≤
          (drawingCourse.moments drawingEvents).countP Moment.isRefresh := by
  obtain ⟨_, late, _⟩ := drawingFacts
  obtain ⟨first, issue, between, flush, cut, runs, draws, noRefresh, before, after⟩ :=
    drawingMoments
  obtain ⟨drawn, counted⟩ := draw_held late drawingEvents
  have whole := counted [] (drawingCourse.moments drawingEvents) [] (List.append_nil _).symm
  exact ⟨late, first, issue, between, flush, cut,
    drawn [first] issue between _ 0 0 1 cut runs draws noRefresh, before, after, whole.1⟩

end Chip8
