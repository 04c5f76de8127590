import Chip8.Proofs.Effects
import Chip8.Proofs.Fading
import Chip8.Proofs.Magnifying
import Chip8.Proofs.Sounding

set_option autoImplicit false

/-!
What belongs to one platform stays there. The tall and the high screen, the user flags and the end
of a program each have one platform; `Machine.Native` says that a machine has nothing of another
one. Loading, instructions and refreshes all keep to it, the sprites included that are drawn late
(`Moment.native_after`). Without a high screen a sprite of no rows is empty
(`drawSprite_of_no_rows`).

Main statement: `stays_native`.
-/

namespace Chip8

/-- The sizes of a platform's screens. -/
def Platform.sizes : Platform → List (Nat × Nat)
  | .hybridVip => [(64, 32), (64, 64)]
  | .superChip => [(64, 32), (128, 64)]
  | .cosmacVip | .modern | .chip8x | .hp48 => [(64, 32)]

def Frame.size (frame : Frame) : Nat × Nat :=
  (frame.width, frame.height)

theorem Screen.resolution_applyAll (screen : Screen) (strokes : List Stroke) :
    (screen.applyAll strokes).resolution =
      strokes.foldl Stroke.resolutionAfter screen.resolution := by
  induction strokes generalizing screen with
  | nil => rfl
  | cons stroke rest ih =>
      rw [List.foldl_cons, ← screen.resolution_apply stroke]
      exact ih (screen.apply stroke)

namespace Machine

/-- A machine has nothing that only another platform has. -/
structure Native (machine : Machine) : Prop where
  high : machine.screen.resolution = .high → machine.platform = .superChip
  tall : machine.screen.resolution = .tall → machine.platform = .hybridVip
  flags : machine.platform ≠ .superChip → machine.flags = Vector.replicate 16 0

variable {machine later : Machine}

theorem Native.congr (native : machine.Native)
    (resolution : later.screen.resolution = machine.screen.resolution)
    (platform : later.platform = machine.platform)
    (flags : machine.platform ≠ .superChip → later.flags = machine.flags) : later.Native := by
  constructor
  · rw [resolution, platform]
    exact native.high
  · rw [resolution, platform]
    exact native.tall
  · rw [platform]
    intro other
    exact (flags other).trans (native.flags other)

theorem Native.size_mem (native : machine.Native) {frame : Frame}
    (same : frame.resolution = machine.screen.resolution) :
    frame.size ∈ machine.platform.sizes := by
  have size : frame.size =
      (machine.screen.resolution.width, machine.screen.resolution.height) := by
    rw [← same]
    rfl
  rw [size]
  cases resolution : machine.screen.resolution with
  | low => cases machine.platform <;> decide
  | tall =>
      rw [native.tall resolution]
      decide
  | high =>
      rw [native.high resolution]
      decide

/-! ### Loading and steps -/

theorem native_ofProfile (profile : Profile) (filter : Filter) (tape : Tape) :
    (ofProfile profile filter tape).Native :=
  ⟨nofun, nofun, fun _ => rfl⟩

theorem Native.prepared (native : machine.Native) : machine.prepared.Native := by
  unfold Machine.prepared
  split
  · rename_i marked
    have platform : machine.platform = .hybridVip :=
      of_decide_eq_true (Bool.and_eq_true_iff.mp marked).1
    exact ⟨nofun, fun _ => platform, native.flags⟩
  · exact native

theorem Native.load (native : machine.Native) (source : ProgramSource) :
    (machine.load source).1.Native := by
  unfold Machine.load
  rcases machine.memory.load source with ⟨memory, fault | length⟩
  · exact native
  · exact Native.prepared (native.congr rfl rfl fun _ => rfl)

theorem extended_of_hasExtendedSet {platform : Platform} (has : platform.hasExtendedSet = true) :
    platform = .superChip :=
  of_decide_eq_true has

theorem resolution_perform (machine : Machine) (instruction : Instruction) :
    (machine.perform instruction).1.screen.resolution =
      (machine.strokes instruction).foldl Stroke.resolutionAfter machine.screen.resolution := by
  rw [screen_perform, Screen.resolution_applyAll]

theorem Native.perform (native : machine.Native) {instruction : Instruction}
    (isOn : instruction.isOn machine.platform = true) :
    (machine.perform instruction).1.Native := by
  have same := machine.perform_sameBut instruction
  have resolution := machine.resolution_perform instruction
  cases instruction with
  | tallScreen => exact ⟨nofun, fun _ => of_decide_eq_true isOn, native.flags⟩
  | lowScreen => exact ⟨nofun, nofun, native.flags⟩
  | highScreen => exact ⟨fun _ => extended_of_hasExtendedSet isOn, nofun, native.flags⟩
  | saveFlags x =>
      refine native.congr resolution (same .platform (by simp [Instruction.changes])) ?_
      exact fun other => absurd (extended_of_hasExtendedSet isOn) other
  | draw x y rows =>
      have kept : (machine.perform (.draw x y rows)).1.screen.resolution =
          machine.screen.resolution := by
        rw [resolution, strokes]
        split <;> rfl
      refine native.congr kept (same .platform (by simp [Instruction.changes])) ?_
      exact fun _ => same .flags (by simp [Instruction.changes])
  | _ =>
      refine native.congr resolution (same .platform (by simp [Instruction.changes])) ?_
      exact fun _ => same .flags (by simp [Instruction.changes])

theorem Native.step (native : machine.Native) : machine.step.1.Native := by
  cases next : machine.instruction? with
  | none =>
      rw [step_of_no_instruction next]
      exact native
  | some instruction =>
      rw [step_of_instruction next]
      have advanced : machine.advance.Native := native.congr rfl rfl fun _ => rfl
      exact advanced.perform (machine.instruction?_eq_some_iff.mp next).2

/-- Only the extended instructions can end a program. -/
theorem step_ne_exit (other : machine.platform ≠ .superChip) : machine.step.2 ≠ .ok .exit := by
  intro exits
  obtain ⟨instruction, next, performed⟩ := perform_of_step (Prod.ext rfl exits)
  have ends : instruction = .exit := instruction_of_exit (congrArg Prod.snd performed)
  subst ends
  exact other (extended_of_hasExtendedSet (machine.instruction?_eq_some_iff.mp next).2)

/-- A state on a platform, without anything of another one. -/
structure KeepsTo (platform : Platform) (machine : Machine) : Prop where
  isOn : machine.platform = platform
  native : machine.Native
  noExit : platform ≠ .superChip → machine.step.2 ≠ .ok .exit
  size : machine.screen.frame.size ∈ platform.sizes

theorem Native.keepsTo (native : machine.Native) : machine.KeepsTo machine.platform :=
  ⟨rfl, native, step_ne_exit, native.size_mem rfl⟩

/-! ### Sprites of no rows -/

theorem drawSprite_of_no_rows {request : DrawRequest} (noRows : request.rows = 0)
    (notHigh : machine.screen.resolution ≠ .high) :
    machine.drawSprite request = machine.setFlag false := by
  have empty : (machine.sprite request).rows = [] := by
    rw [sprite, if_neg fun wide => notHigh wide.2, noRows]
    rfl
  have targets : (machine.sprite request).targets machine.screen.resolution
      machine.dialect.spritesWrap = [] := by
    rw [Sprite.targets, Sprite.dots, empty]
    rfl
  rw [drawSprite, Screen.draw]
  simp only [targets]
  rfl

theorem register_setFlag_false (machine : Machine) :
    (machine.setFlag false).register flagRegister = 0 := by
  rw [setFlag, register_setRegister, if_pos rfl]
  rfl

theorem step_draw_now {x y : Register} {rows : Fin 16}
    (draws : machine.instruction? = some (.draw x y rows))
    (now : machine.dialect.drawAwaitsRefresh = false) :
    machine.step = (machine.advance.drawSprite (machine.drawRequest x y rows), .ok .proceed) := by
  have atOnce : machine.advance.dialect.drawAwaitsRefresh = false := now
  rw [step_of_instruction draws, perform, drawOrWait, atOnce]
  rfl

end Machine

/-! ### Moments -/

theorem Run.resolution_pictured (run : Run) :
    run.pictured.machine.screen.resolution = run.machine.screen.resolution := by
  rw [screen_pictured, Screen.resolution_applyAll, refreshStrokes]
  split <;> rfl

namespace Moment

/-- What is drawn at a moment: by an instruction that draws at once, or at the refresh for which a
draw has waited. -/
def drawn? : Moment → Option DrawRequest
  | .slot run =>
      match run.state, run.machine.instruction? with
      | .running, some (.draw x y rows) =>
          if run.machine.dialect.drawAwaitsRefresh then none
          else some (run.machine.drawRequest x y rows)
      | _, _ => none
  | .refresh run =>
      match run.state with
      | .awaitingRefresh request => some request
      | _ => none
  | .press _ _ | .release _ _ => none

/-- A moment on a platform, at which nothing comes up that belongs to another one. -/
structure StaysOn (platform : Platform) (moment : Moment) : Prop where
  found : moment.found.machine.KeepsTo platform
  after : moment.after.machine.KeepsTo platform
  /-- A draw is drawn at once or is left waiting, with the screen as it was. -/
  draws : ∀ x y rows, moment.isStep = true →
    moment.found.machine.instruction? = some (.draw x y rows) →
    moment.drawn? = some (moment.found.machine.drawRequest x y rows) ∨
      moment.after.state = .awaitingRefresh (moment.found.machine.drawRequest x y rows) ∧
        moment.after.machine.screen = moment.found.machine.screen
  /-- What is drawn without rows changes no pixel and ends with VF = 0. -/
  drawsNothing : platform ≠ .superChip → ∀ request, moment.drawn? = some request →
    request.rows = 0 →
    (Scene.comes moment).shown.machine.screen = moment.found.machine.screen ∧
      moment.after.machine.register flagRegister = 0
  pictures : ∀ frame, (Scene.comes moment).snapshot? = some frame → frame.size ∈ platform.sizes

theorem resolution_after_of_noStep {moment : Moment} (noStep : moment.isStep = false) :
    moment.after.machine.screen.resolution = moment.found.machine.screen.resolution := by
  cases moment with
  | slot run =>
      have waits : run.state ≠ .running := of_decide_eq_false noStep
      exact congrArg Screen.resolution (sameBut_after_of_wait waits .screen (by decide))
  | refresh run =>
      change run.refresh.machine.screen.resolution = _
      rw [Run.refresh_eq]
      exact run.resolution_pictured
  | press key run => rfl
  | release key run => rfl

theorem native_after {moment : Moment} (native : moment.found.machine.Native) :
    moment.after.machine.Native := by
  cases isStep : moment.isStep with
  | true =>
      have same := sameIn_step_after isStep
      exact native.step.congr (congrArg Screen.resolution (same .screen (by decide)))
        (same .platform (by decide)) fun _ => same .flags (by decide)
  | false =>
      have same := sameBut_after_of_noStep isStep
      exact native.congr (resolution_after_of_noStep isStep) (same .platform (by decide))
        fun _ => same .flags (by decide)

theorem drawn?_or_waits {moment : Moment} {x y : Register} {rows : Fin 16}
    (isStep : moment.isStep = true)
    (draws : moment.found.machine.instruction? = some (.draw x y rows)) :
    moment.drawn? = some (moment.found.machine.drawRequest x y rows) ∨
      moment.after.state = .awaitingRefresh (moment.found.machine.drawRequest x y rows) ∧
        moment.after.machine.screen = moment.found.machine.screen := by
  cases moment with
  | slot run =>
      have runs : run.state = .running := of_decide_eq_true isStep
      have drawsHere : run.machine.instruction? = some (.draw x y rows) := draws
      by_cases late : run.machine.dialect.drawAwaitsRefresh = true
      · right
        rw [after, Run.slot?_of_draw runs drawsHere late]
        exact ⟨rfl, rfl⟩
      · left
        rw [drawn?, runs, drawsHere]
        exact if_neg late
  | refresh run => cases isStep
  | press key run => cases isStep
  | release key run => cases isStep

theorem eq_of_drawn?_slot {run : Run} {request : DrawRequest}
    (drawn : (Moment.slot run).drawn? = some request) :
    run.state = .running ∧ run.machine.dialect.drawAwaitsRefresh = false ∧
      ∃ x y rows, run.machine.instruction? = some (.draw x y rows) ∧
        request = run.machine.drawRequest x y rows := by
  simp only [drawn?] at drawn
  split at drawn
  · rename_i x y rows runs draws
    obtain ⟨now, same⟩ := Option.ite_none_left_eq_some.mp drawn
    exact ⟨runs, Bool.eq_false_iff.mpr now, x, y, rows, draws, (Option.some.inj same).symm⟩
  · cases drawn

theorem drawsNothing {moment : Moment} {request : DrawRequest}
    (notHigh : moment.found.machine.screen.resolution ≠ .high)
    (drawn : moment.drawn? = some request) (noRows : request.rows = 0) :
    (Scene.comes moment).shown.machine.screen = moment.found.machine.screen ∧
      moment.after.machine.register flagRegister = 0 := by
  cases moment with
  | press key run => cases drawn
  | release key run => cases drawn
  | slot run =>
      obtain ⟨runs, now, x, y, rows, draws, rfl⟩ := eq_of_drawn?_slot drawn
      have isStep : (Moment.slot run).isStep = true := Run.running_of_isStep.mpr runs
      have stepped : run.machine.step.1 = run.machine.advance.setFlag false := by
        rw [Machine.step_draw_now draws now]
        exact Machine.drawSprite_of_no_rows noRows notHigh
      have screen : (Moment.slot run).after.machine.screen = run.machine.step.1.screen :=
        sameIn_step_after isStep .screen (by decide)
      have registers : (Moment.slot run).after.machine.registers = run.machine.step.1.registers :=
        sameIn_step_after isStep .registers (by decide)
      rw [stepped] at screen registers
      refine ⟨screen, ?_⟩
      rw [Machine.register, registers]
      exact run.machine.advance.register_setFlag_false
  | refresh run =>
      rcases run with ⟨state, machine, report⟩
      cases state with
      | awaitingRefresh waiting =>
          have same : waiting = request := Option.some.inj drawn
          subst same
          let counted : Machine := { machine with timers := machine.timers.decrement.1 }
          have pictured : (⟨.awaitingRefresh waiting, machine, report⟩ : Run).pictured.machine =
              counted.setFlag false :=
            Machine.drawSprite_of_no_rows noRows notHigh
          have screen := congrArg Machine.screen pictured
          refine ⟨screen, ?_⟩
          change (Run.refresh _).machine.register flagRegister = 0
          rw [Run.refresh_eq, pictured]
          exact counted.register_setFlag_false
      | _ => cases drawn

theorem size_of_snapshot? {moment : Moment} (native : moment.found.machine.Native) {frame : Frame}
    (taken : (Scene.comes moment).snapshot? = some frame) :
    frame.size ∈ moment.found.machine.platform.sizes := by
  cases moment with
  | refresh run =>
      rw [Scene.snapshot?, Run.refresh_eq] at taken
      cases taken
      exact native.size_mem run.resolution_pictured
  | slot run => cases taken
  | press key run => cases taken
  | release key run => cases taken

theorem staysOn_of_native {platform : Platform} {moment : Moment}
    (native : moment.found.machine.Native) (same : moment.found.machine.platform = platform) :
    moment.StaysOn platform := by
  subst same
  have after := (native_after native).keepsTo
  rw [moment.platform_after] at after
  constructor
  case found => exact native.keepsTo
  case after => exact after
  case draws => exact fun _ _ _ => drawn?_or_waits
  case drawsNothing =>
    intro other request drawn noRows
    exact drawsNothing (fun high => other (native.high high)) drawn noRows
  case pictures => exact fun _ => size_of_snapshot? native

end Moment

/-! ### Reports -/

namespace Run

theorem frame_slotUse {run later : Run} (use : SlotUse run later none) :
    later.report.frame = run.report.frame := by
  cases use with
  | took x machine waits found => rfl
  | carried stepped outcome runs step => cases outcome <;> rfl

theorem frame_refresh (run : Run) :
    run.refresh.report.frame = (Scene.comes (.refresh run.unreported)).snapshot? := by
  rcases run with ⟨state, machine, report⟩
  cases state <;> rfl

end Run

namespace Pacer

theorem snapshots_slotMoments (slots : Nat) (run : Run) :
    snapshots ((Run.slotMoments slots run).map .comes) = [] := by
  rw [snapshots, List.filterMap_map, List.filterMap_eq_nil_iff]
  intro moment member
  rw [Moment.eq_slot (Run.isSlot_of_mem_slotMoments slots run moment member)]
  rfl

theorem frame_runFor {pacer : Pacer} {machine : Machine} {report : Report} {time : Nat} {run : Run}
    (ran : pacer.runFor time machine report = (run, none)) : run.report.frame = report.frame := by
  have same : ∀ before later : Run, before.report.frame = report.frame →
      Run.SlotUse before later none → later.report.frame = report.frame :=
    fun _ _ same use => (Run.frame_slotUse use).trans same
  have failed : ∀ (before later : Run) (fault : Fault), before.report.frame = report.frame →
      Run.SlotUse before later (some fault) → True :=
    fun _ _ _ _ _ => trivial
  have kept :=
    Run.useSlots_keeps same failed (pacer.slotsIn time) ⟨pacer.state, machine, report⟩ rfl
  rw [← runFor, ran] at kept
  exact kept

namespace Passes

variable {pacer : Pacer} {machine : Machine} {report last : Report} {nanoseconds : Nat}
variable {moments : List Moment} {ticked : Ticked} {frame : Frame}

private theorem snapshots_slots_append (slots : Nat) (run : Run) (rest : List Moment) :
    snapshots ((Run.slotMoments slots run ++ rest).map .comes) =
      snapshots (rest.map .comes) := by
  have none := snapshots_slotMoments slots run
  rw [snapshots] at none ⊢
  rw [List.map_append, List.filterMap_append, none, List.nil_append]
  rfl

private theorem frame_of_refresh {run : Run}
    (shown : run.refresh.report.frame = some frame) (rest : List Moment) :
    frame ∈ snapshots ((Moment.refresh run.unreported :: rest).map .comes) := by
  rw [Run.frame_refresh] at shown
  rw [List.map_cons, snapshots_cons, shown]
  exact List.mem_cons_self

/-- A report shows a picture that was taken on the way. -/
theorem frame_mem (passes : Passes pacer machine report nanoseconds moments ticked)
    (finished : ticked.result = .ok last) (shown : last.frame = some frame) :
    frame ∈ snapshots (moments.map .comes) ∨ report.frame = some frame := by
  induction passes with
  | rested pacer machine report nanoseconds run short ran =>
      cases finished
      rw [frame_runFor ran] at shown
      exact .inr shown
  | failed pacer machine report nanoseconds before run fault slice ran => cases finished
  | ended pacer machine report more run ran halted =>
      cases finished
      rw [snapshots_slots_append]
      exact .inl (frame_of_refresh shown [])
  | wentOn pacer machine report more run moments ticked ran runs behind ih =>
      rw [snapshots_slots_append]
      rcases ih finished with later | here
      · rw [List.map_cons, snapshots_cons]
        exact .inl (List.mem_append_right _ later)
      · exact .inl (frame_of_refresh here moments)

end Passes

/-- The picture in the report of a tick is one that was taken in it. -/
theorem frame_mem_of_tick {pacer : Pacer} {machine : Machine} {nanoseconds : Nat} {report : Report}
    {frame : Frame} (ticked : (pacer.tick machine nanoseconds).result = .ok report)
    (shown : report.frame = some frame) :
    frame ∈ snapshots ((pacer.moments machine nanoseconds).map .comes) := by
  by_cases halted : pacer.state = .halted
  · rw [tick_of_halted halted] at ticked
    cases ticked
    cases shown
  · rcases (passes_tick halted machine nanoseconds).frame_mem ticked shown with taken | before
    · exact taken
    · cases before

end Pacer

/-! ### Whole runs -/

namespace Course

variable {platform : Platform} {course : Course}

theorem frame_of_meet {event : Event} {report : Report} {frame : Frame}
    (reported : .ok report ∈ (course.meet event).results) (shown : report.frame = some frame) :
    .ok report ∈ course.results ∨ frame ∈ snapshots ((course.momentsOf event).map .comes) := by
  cases event with
  | elapse nanoseconds =>
      rcases List.mem_append.mp reported with before | here
      · exact .inl before
      · exact .inr (Pacer.frame_mem_of_tick (List.mem_singleton.mp here).symm shown)
  | press key => exact .inl reported
  | release key => exact .inl reported

theorem frame_of_reported {events : List Event} {report : Report} {frame : Frame}
    (reported : .ok report ∈ (course.follow events).results)
    (shown : report.frame = some frame) :
    .ok report ∈ course.results ∨ frame ∈ snapshots ((course.moments events).map .comes) := by
  induction events generalizing course with
  | nil => exact .inl reported
  | cons event rest ih =>
      rw [moments, List.map_append, snapshots, List.filterMap_append]
      rcases ih reported with before | later
      · exact (frame_of_meet before shown).imp_right (List.mem_append_left _)
      · exact .inr (List.mem_append_right _ later)

/-- A run on a platform, in which nothing comes up that belongs to another one. -/
structure StaysOn (platform : Platform) (course : Course) (events : List Event) : Prop where
  moments : ∀ moment ∈ course.moments events, moment.StaysOn platform
  left : (course.follow events).machine.KeepsTo platform
  reported : ∀ report frame, .ok report ∈ (course.follow events).results →
    report.frame = some frame → frame.size ∈ platform.sizes

theorem staysOn_of_native (native : course.machine.Native) (fresh : course.results = [])
    (events : List Event) : course.StaysOn course.machine.platform events := by
  have kept := Unfolds.keeps
    (fun run => run.machine.Native ∧ run.machine.platform = course.machine.platform)
    (fun moment _ found => ⟨Moment.native_after found.1, moment.platform_after.trans found.2⟩)
    (course.unfolds events) ⟨native, rfl⟩
  have stays : ∀ moment ∈ course.moments events, moment.StaysOn course.machine.platform :=
    fun moment member => Moment.staysOn_of_native (kept.1 moment member).1 (kept.1 moment member).2
  have left := kept.2.1.keepsTo
  rw [kept.2.2] at left
  refine ⟨stays, left, ?_⟩
  intro report frame reported shown
  rcases frame_of_reported reported shown with before | taken
  · rw [fresh] at before
    exact absurd before List.not_mem_nil
  · obtain ⟨scene, member, taken⟩ := List.mem_filterMap.mp taken
    obtain ⟨moment, cameUp, rfl⟩ := List.mem_map.mp member
    exact (stays moment cameUp).pictures frame taken

/-- Whatever the program, each platform keeps what it has to itself. -/
theorem stays_native (rate : UInt32) (profile : Profile) (filter : Filter) (tape : Tape)
    (source : ProgramSource) (events : List Event) :
    (boot rate profile filter tape source).StaysOn profile.platform events := by
  let fresh := Machine.ofProfile profile filter tape
  have native : (fresh.load source).1.Native :=
    (Machine.native_ofProfile profile filter tape).load source
  have platform : (fresh.load source).1.platform = profile.platform :=
    fresh.load_sameBut source .platform (by decide)
  rw [← platform]
  exact (boot rate profile filter tape source).staysOn_of_native native rfl events

/-- It turns the tall screen on, sets VF and draws a sprite of no rows. -/
def tallCourse : Course :=
  .boot 180 (Profile.ofPlatform "tall" .hybridVip) .none ⟨fun _ => 0, 0⟩
    ⟨[0x02, 0x30, 0x6F, 0x01, 0xD0, 0x00], none⟩

private theorem tallFacts :
    let moments := tallCourse.moments [.elapse refreshInterval]
    moments.length = 4 ∧
    ∀ moment ∈ moments.drop 3,
      moment.isRefresh = true ∧ moment.drawn? = some ⟨0, 0, 0⟩ ∧
      moment.found.machine.screen.resolution = .tall ∧
      moment.found.machine.register flagRegister = 1 := by
  decide +kernel

/-- The sprite is drawn at the refresh, on the tall screen, and VF is reset. -/
theorem stays_native_tallSprite :
    ∃ flush, .refresh flush ∈ tallCourse.moments [.elapse refreshInterval] ∧
      (Moment.refresh flush).drawn? = some ⟨0, 0, 0⟩ ∧
      flush.machine.screen.resolution = .tall ∧
      flush.machine.register flagRegister = 1 ∧
      (Moment.refresh flush).after.machine.register flagRegister = 0 := by
  obtain ⟨four, facts⟩ := tallFacts
  have stays := stays_native 180 (Profile.ofPlatform "tall" .hybridVip) .none ⟨fun _ => 0, 0⟩
    ⟨[0x02, 0x30, 0x6F, 0x01, 0xD0, 0x00], none⟩ [.elapse refreshInterval]
  rcases cut : (tallCourse.moments [.elapse refreshInterval]).drop 3 with _ | ⟨last, rest⟩
  · have short := congrArg List.length cut
    rw [List.length_drop, four] at short
    cases short
  · rw [cut] at facts
    obtain ⟨isRefresh, drawn, tall, wasSet⟩ := facts last List.mem_cons_self
    have member : last ∈ tallCourse.moments [.elapse refreshInterval] :=
      List.mem_of_mem_drop (cut ▸ List.mem_cons_self)
    have reset := ((stays.moments last member).drawsNothing (by decide) _ drawn rfl).2
    rw [Moment.eq_refresh isRefresh] at member drawn tall wasSet reset
    exact ⟨last.found, member, drawn, tall, wasSet, reset⟩

end Course
end Chip8
