import Chip8.Proofs.Filters
import Chip8.Proofs.Strokes

set_option autoImplicit false

/-!
How pixels fade while a machine runs. A scene is a moment or a change of the filter, with the strokes
that it does to the screen (`screen_shown`); a refresh takes its picture behind the strokes and lets
the glow get shorter behind the picture (`screen_after`). So a pixel that is off loses one refresh of
its glow from picture to picture as long as it is spared (`Plays.fades`).

Main statement: `pixels_fade`, with what it leaves of the cells: none is on that glows, and none
glows for longer than the filters allow.
-/

namespace Chip8

/-! ### What instructions and moments do to the screen -/

namespace Machine

variable (machine : Machine)

/-- The sprite of a request, drawn. -/
def drawStroke (request : DrawRequest) : Stroke :=
  .drawing (.draw (machine.sprite request) machine.dialect.spritesWrap)

def strokes : Instruction → List Stroke
  | .clear => [.drawing .clear]
  | .tallScreen => [.drawing .clear, .reshape .tall]
  | .scrollDown rows => [.drawing (.scrollDown rows.val)]
  | .scrollRight => [.drawing (.scrollRight 4)]
  | .scrollLeft => [.drawing (.scrollLeft 4)]
  | .lowScreen => [.reshape .low]
  | .highScreen => [.reshape .high]
  | .draw x y rows =>
      if machine.dialect.drawAwaitsRefresh then []
      else [machine.drawStroke (machine.drawRequest x y rows)]
  | _ => []

theorem screen_perform (instruction : Instruction) :
    (machine.perform instruction).1.screen =
      machine.screen.applyAll (machine.strokes instruction) := by
  cases instruction with
  | clear | tallScreen | scrollDown | scrollRight | scrollLeft | lowScreen | highScreen => rfl
  | draw x y rows =>
      rw [perform, drawOrWait, strokes]
      cases machine.dialect.drawAwaitsRefresh <;> rfl
  | _ => exact machine.perform_sameBut _ .screen (by simp [Instruction.changes])

theorem strokes_advance (instruction : Instruction) :
    machine.advance.strokes instruction = machine.strokes instruction := by
  cases instruction <;> rfl

theorem screen_step {machine : Machine} {instruction : Instruction}
    (next : machine.instruction? = some instruction) :
    machine.step.1.screen = machine.screen.applyAll (machine.strokes instruction) := by
  rw [step_of_instruction next, ← strokes_advance]
  exact machine.advance.screen_perform instruction

theorem filter?_of_mem_strokes {instruction : Instruction} :
    ∀ stroke ∈ machine.strokes instruction, stroke.filter? = none := by
  cases instruction with
  | draw x y rows =>
      rw [strokes]
      split <;> simp [drawStroke, Stroke.filter?]
  | _ => simp [strokes, Stroke.filter?]

end Machine

namespace Run

def slotStrokes (run : Run) : List Stroke :=
  match run.state with
  | .running => (run.machine.instruction?.map run.machine.strokes).getD []
  | _ => []

/-- A refresh draws the sprite that waits for it. -/
def refreshStrokes (run : Run) : List Stroke :=
  match run.state with
  | .awaitingRefresh request => [run.machine.drawStroke request]
  | _ => []

variable {run : Run}

theorem slotStrokes_of_idle (idle : run.state ≠ .running) : run.slotStrokes = [] := by
  unfold slotStrokes
  split
  · rename_i runs
    exact absurd runs idle
  · rfl

theorem filter?_of_mem_slotStrokes : ∀ stroke ∈ run.slotStrokes, stroke.filter? = none := by
  unfold slotStrokes
  split
  · cases run.machine.instruction? with
    | none => exact fun _ member => absurd member List.not_mem_nil
    | some instruction => exact run.machine.filter?_of_mem_strokes
  · exact fun _ member => absurd member List.not_mem_nil

theorem filter?_of_mem_refreshStrokes :
    ∀ stroke ∈ run.refreshStrokes, stroke.filter? = none := by
  unfold refreshStrokes
  split
  · intro stroke member
    rw [List.mem_singleton.mp member]
    rfl
  · exact fun _ member => absurd member List.not_mem_nil

theorem screen_after_slot (run : Run) :
    (Moment.slot run).after.machine.screen = run.machine.screen.applyAll run.slotStrokes := by
  by_cases runs : run.state = .running
  · have stepped : (Moment.slot run).after.machine.screen = run.machine.step.1.screen :=
      Moment.sameIn_step_after (running_of_isStep.mpr runs) .screen (by decide)
    rw [stepped, slotStrokes, runs]
    cases next : run.machine.instruction? with
    | none =>
        rw [Machine.step_of_no_instruction next]
        rfl
    | some instruction => exact Machine.screen_step next
  · have unchanged : (Moment.slot run).after.machine.screen = run.machine.screen :=
      Moment.sameBut_after_of_wait runs .screen (by decide)
    rw [unchanged, slotStrokes_of_idle runs]
    rfl

theorem screen_pictured (run : Run) :
    run.pictured.machine.screen = run.machine.screen.applyAll run.refreshStrokes := by
  rcases run with ⟨state, machine, report⟩
  cases state <;> rfl

end Run

/-! ### Scenes -/

/-- What comes up while a machine is watched: a moment, or a change of the filter. -/
inductive Scene where
  | comes (moment : Moment)
  | switch (filter : Filter) (found : Run)

namespace Scene

def found : Scene → Run
  | .comes moment => moment.found
  | .switch _ run => run

def after : Scene → Run
  | .comes moment => moment.after
  | .switch filter run =>
      ⟨run.state, { run.machine with screen := run.machine.screen.setFilter filter }, Report.none⟩

/-- What is done to the screen, at a refresh before the picture is taken. -/
def strokes : Scene → List Stroke
  | .comes (.slot run) => run.slotStrokes
  | .comes (.refresh run) => run.refreshStrokes
  | .switch filter _ => [.drawing (.setFilter filter)]
  | .comes (.press _ _) | .comes (.release _ _) => []

/-- The run behind the strokes. -/
def shown : Scene → Run
  | .comes (.refresh run) => run.pictured
  | scene => scene.after

/-- The picture that a refresh reports. -/
def snapshot? : Scene → Option Frame
  | .comes (.refresh run) => run.refresh.report.frame
  | _ => none

def filter? : Scene → Option Filter
  | .switch filter _ => some filter
  | .comes _ => none

variable (scene : Scene)

theorem screen_shown :
    scene.shown.machine.screen = scene.found.machine.screen.applyAll scene.strokes := by
  cases scene with
  | switch filter run => rfl
  | comes moment =>
      cases moment with
      | slot run => exact run.screen_after_slot
      | refresh run => exact run.screen_pictured
      | press key run => rfl
      | release key run => rfl

theorem filterMap_strokes : scene.strokes.filterMap Stroke.filter? = scene.filter?.toList := by
  cases scene with
  | switch filter run => rfl
  | comes moment =>
      cases moment with
      | slot run => exact List.filterMap_eq_nil_iff.mpr Run.filter?_of_mem_slotStrokes
      | refresh run => exact List.filterMap_eq_nil_iff.mpr Run.filter?_of_mem_refreshStrokes
      | press key run => rfl
      | release key run => rfl

/-- A refresh takes the picture of what is shown and then ages it; nothing else takes a picture or
changes what is shown. -/
theorem screen_after :
    scene.snapshot? = none ∧ scene.after.machine.screen = scene.shown.machine.screen ∨
      scene.snapshot? = some scene.shown.machine.screen.frame ∧
        scene.after.machine.screen = scene.shown.machine.screen.age := by
  cases scene with
  | switch filter run => exact .inl ⟨rfl, rfl⟩
  | comes moment =>
      cases moment with
      | slot run => exact .inl ⟨rfl, rfl⟩
      | press key run => exact .inl ⟨rfl, rfl⟩
      | release key run => exact .inl ⟨rfl, rfl⟩
      | refresh run =>
          right
          constructor
          · rw [snapshot?, Run.refresh_eq]
            rfl
          · change run.refresh.machine.screen = run.pictured.machine.screen.age
            rw [Run.refresh_eq]

/-- A scene that neither draws on a pixel nor scrolls nor changes the resolution. -/
def Spares (x y : Nat) : Prop :=
  ∀ stroke ∈ scene.strokes, stroke.Spares scene.found.machine.screen.resolution x y

instance (x y : Nat) : Decidable (scene.Spares x y) :=
  inferInstanceAs (Decidable (∀ stroke ∈ scene.strokes, stroke.Spares _ x y))

/-- A draw, at once or at a refresh, or a clear switches a pixel off. -/
structure PutsOut (x y : Nat) : Prop where
  wasOn : (scene.found.machine.screen.pixel x y).on = true
  drawsOrClears : ∀ stroke ∈ scene.strokes,
    stroke.DrawsOrClears scene.found.machine.screen.resolution
  isOff : (scene.shown.machine.screen.pixel x y).on = false

end Scene

def snapshots (scenes : List Scene) : List Frame :=
  scenes.filterMap Scene.snapshot?

theorem snapshots_cons (scene : Scene) (rest : List Scene) :
    snapshots (scene :: rest) = scene.snapshot?.toList ++ snapshots rest := by
  rw [snapshots, snapshots, List.filterMap_cons]
  cases scene.snapshot? <;> rfl

/-- In the pictures a pixel is off. It is lit in just as many of them, from the first one on, as it
had refreshes to glow for, and shows how many are left. -/
def FadesFrom (x y glow : Nat) (frames : List Frame) : Prop :=
  ∀ position frame, frames[position]? = some frame →
    ∃ pixel, frame.pixel? x y = some pixel ∧ pixel.on = false ∧ pixel.glow = glow - position ∧
      (pixel.isLit = true ↔ position < glow)

theorem FadesFrom.append {x y glow : Nat} {earlier later : List Frame}
    (first : FadesFrom x y glow earlier) (second : FadesFrom x y (glow - earlier.length) later) :
    FadesFrom x y glow (earlier ++ later) := by
  intro position frame found
  by_cases early : position < earlier.length
  · rw [List.getElem?_append_left early] at found
    exact first position frame found
  · rw [List.getElem?_append_right (Nat.not_lt.mp early)] at found
    obtain ⟨pixel, shows, off, glows, lit⟩ := second _ frame found
    refine ⟨pixel, shows, off, ?_, lit.trans ?_⟩
    · rw [glows]
      omega
    · omega

theorem isLit_iff {glow : Nat} : (⟨false, glow⟩ : Pixel).isLit = true ↔ 0 < glow := by
  rw [Pixel.isLit, Bool.false_or, bne_iff_ne]
  exact Nat.pos_iff_ne_zero.symm

section OnePixel

variable {x y glow : Nat}

/-- Behind the strokes of a scene a pixel that is off shows its glow in the picture, if one is
taken, and has one refresh less left behind it. -/
theorem Scene.fades_of_shown {scene : Scene}
    (column : x < scene.shown.machine.screen.resolution.width)
    (row : y < scene.shown.machine.screen.resolution.height)
    (pixel : scene.shown.machine.screen.pixel x y = ⟨false, glow⟩) :
    FadesFrom x y glow scene.snapshot?.toList ∧
      scene.after.machine.screen.resolution = scene.shown.machine.screen.resolution ∧
      scene.after.machine.screen.pixel x y =
        ⟨false, glow - scene.snapshot?.toList.length⟩ := by
  rcases scene.screen_after with ⟨none, same⟩ | ⟨taken, aged⟩
  · rw [none, same]
    refine ⟨fun _ _ found => ?_, rfl, pixel⟩
    cases found
  · rw [taken, aged]
    refine ⟨?_, rfl, ?_⟩
    · intro position frame found
      cases position with
      | succ later => cases found
      | zero =>
          cases found
          refine ⟨_, Screen.pixel?_frame column row, ?_⟩
          rw [pixel]
          exact ⟨rfl, rfl, isLit_iff⟩
    · rw [Screen.pixel_age _ column row, pixel]
      rfl

theorem Scene.fades {scene : Scene} (spares : scene.Spares x y)
    (column : x < scene.found.machine.screen.resolution.width)
    (row : y < scene.found.machine.screen.resolution.height)
    (pixel : scene.found.machine.screen.pixel x y = ⟨false, glow⟩) :
    FadesFrom x y glow scene.snapshot?.toList ∧
      scene.after.machine.screen.resolution = scene.found.machine.screen.resolution ∧
      scene.after.machine.screen.pixel x y =
        ⟨false, glow - scene.snapshot?.toList.length⟩ := by
  have off : (scene.found.machine.screen.pixel x y).on = false := by
    rw [pixel]
  obtain ⟨resolution, spared⟩ := Screen.pixel_applyAll_of_spares column row spares off
  rw [← scene.screen_shown] at resolution spared
  rw [← resolution] at column row ⊢
  exact fades_of_shown column row (spared.trans pixel)

end OnePixel

/-! ### Scenes one after the other -/

/-- The scenes that lead from one run to another, each of which finds what the one before it left
behind. -/
inductive Plays : Run → List Scene → Run → Prop where
  | nil (run : Run) : Plays run [] run
  | cons (run : Run) (scene : Scene) (rest : List Scene) (last : Run) (found : scene.found = run)
      (follows : Plays scene.after rest last) : Plays run (scene :: rest) last

namespace Plays

variable {run between last : Run}

theorem of_unfolds {moments : List Moment} (unfolds : Unfolds run moments last) :
    Plays run (moments.map .comes) last := by
  induction unfolds with
  | nil run => exact .nil run
  | cons run moment rest last found follows ih => exact .cons run _ _ last found ih

theorem append {earlier later : List Scene} (first : Plays run earlier between)
    (second : Plays between later last) : Plays run (earlier ++ later) last := by
  induction first with
  | nil run => exact second
  | cons run scene rest between found follows ih => exact .cons run scene _ last found (ih second)

theorem split {earlier later : List Scene} (plays : Plays run (earlier ++ later) last) :
    ∃ between, Plays run earlier between ∧ Plays between later last := by
  induction earlier generalizing run with
  | nil => exact ⟨run, .nil run, plays⟩
  | cons scene earlier ih =>
      cases plays with
      | cons run scene rest last found follows =>
          obtain ⟨between, first, second⟩ := ih follows
          exact ⟨between, .cons run scene earlier between found first, second⟩

/-- A run cut at a scene: what leads up to it and what follows it. -/
theorem cut {earlier later : List Scene} {scene : Scene}
    (plays : Plays run (earlier ++ scene :: later) last) :
    Plays run earlier scene.found ∧ Plays scene.after later last := by
  obtain ⟨between, first, second⟩ := plays.split
  cases second with
  | cons _ _ _ _ found follows =>
      rw [found]
      exact ⟨first, follows⟩

/-- A pixel that is off and spared fades from picture to picture. -/
theorem fades {scenes : List Scene} {x y glow : Nat} (plays : Plays run scenes last)
    (spare : ∀ scene ∈ scenes, scene.Spares x y)
    (column : x < run.machine.screen.resolution.width)
    (row : y < run.machine.screen.resolution.height)
    (pixel : run.machine.screen.pixel x y = ⟨false, glow⟩) :
    FadesFrom x y glow (snapshots scenes) := by
  induction plays generalizing glow with
  | nil run =>
      intro position frame found
      cases found
  | cons run scene rest last found follows ih =>
      obtain ⟨spares, spareRest⟩ := List.forall_mem_cons.mp spare
      rw [← found] at column row pixel
      obtain ⟨here, resolution, left⟩ := Scene.fades spares column row pixel
      rw [← resolution] at column row
      rw [snapshots_cons]
      exact here.append (ih spareRest column row left)

/-- From the picture on that comes first behind the draw or the clear, a pixel that a draw or a
clear has put out fades by the filter that it found. -/
theorem fades_putOut {earlier during later : List Scene} {out : Scene} {x y : Nat}
    (plays : Plays run (earlier ++ out :: (during ++ later)) last)
    (column : x < out.found.machine.screen.resolution.width)
    (row : y < out.found.machine.screen.resolution.height) (putsOut : out.PutsOut x y)
    (spare : ∀ scene ∈ during, scene.Spares x y) :
    FadesFrom x y out.found.machine.screen.filter.delay (snapshots (out :: during)) := by
  obtain ⟨middle, follows, _⟩ := plays.cut.2.split
  obtain ⟨resolution, switched⟩ :=
    Screen.pixel_applyAll_switched column row putsOut.drawsOrClears
  rw [← out.screen_shown] at resolution switched
  have off := switched.wentOff putsOut.wasOn putsOut.isOff
  rw [← resolution] at column row
  obtain ⟨here, same, left⟩ := Scene.fades_of_shown column row off
  rw [← same] at column row
  rw [snapshots_cons]
  exact here.append (follows.fades spare column row left)

end Plays

/-! ### Cells -/

section Cells

variable {filters : List Filter}

theorem Scene.kept_shown {scene : Scene} (kept : scene.found.machine.screen.Kept filters) :
    scene.shown.machine.screen.Kept (filters ++ scene.filter?.toList) := by
  rw [scene.screen_shown, ← scene.filterMap_strokes]
  exact kept.applyAll scene.strokes

theorem Scene.kept_after {scene : Scene} (kept : scene.found.machine.screen.Kept filters) :
    scene.after.machine.screen.Kept (filters ++ scene.filter?.toList) := by
  have shown := Scene.kept_shown kept
  rcases scene.screen_after with ⟨_, same⟩ | ⟨_, aged⟩
  · rw [same]
    exact shown
  · rw [aged]
    exact shown.apply (rfl : (Stroke.drawing .age).filter? = none)

theorem Plays.kept {run last : Run} {scenes : List Scene} (plays : Plays run scenes last)
    (kept : run.machine.screen.Kept filters) :
    last.machine.screen.Kept (filters ++ scenes.filterMap Scene.filter?) := by
  induction plays generalizing filters with
  | nil run =>
      rw [List.filterMap_nil, List.append_nil]
      exact kept
  | cons run scene rest last found follows ih =>
      rw [← found] at kept
      have later := ih (Scene.kept_after kept)
      have filtered : (scene :: rest).filterMap Scene.filter? =
          scene.filter?.toList ++ rest.filterMap Scene.filter? := by
        rw [List.filterMap_cons]
        cases scene.filter? <;> rfl
      rw [filtered, ← List.append_assoc]
      exact later

theorem Machine.kept_load {machine : Machine} (kept : machine.screen.Kept filters)
    (source : ProgramSource) : (machine.load source).1.screen.Kept filters := by
  have keptPrepared : ∀ memory, ({ machine with memory := memory }).prepared.screen.Kept filters := by
    intro memory
    unfold prepared
    split
    · exact kept.apply (rfl : (Stroke.reshape .tall).filter? = none)
    · exact kept
  unfold load
  rcases machine.memory.load source with ⟨memory, fault | length⟩
  · exact kept
  · exact keptPrepared memory

end Cells

/-! ### Courses -/

def Viewing.filter? : Viewing → Option Filter
  | .switch filter => some filter
  | .meet _ => none

namespace Course

/-- All that comes up while a machine is watched. -/
def scenes (course : Course) : List Viewing → List Scene
  | [] => []
  | .meet event :: rest => (course.momentsOf event).map .comes ++ (course.meet event).scenes rest
  | .switch filter :: rest =>
      .switch filter course.run :: (course.view (.switch filter)).scenes rest

theorem plays_scenes (course : Course) (viewings : List Viewing) :
    Plays course.run (course.scenes viewings) (course.watch viewings).run := by
  induction viewings generalizing course with
  | nil => exact .nil _
  | cons viewing rest ih =>
      cases viewing with
      | meet event =>
          exact (Plays.of_unfolds (course.unfolds_momentsOf event)).append (ih (course.meet event))
      | switch filter => exact .cons _ _ _ _ rfl (ih (course.view (.switch filter)))

theorem kept_boot (rate : UInt32) (profile : Profile) (filter : Filter) (tape : Tape)
    (source : ProgramSource) :
    (boot rate profile filter tape source).machine.screen.Kept [filter] :=
  Machine.kept_load (Screen.kept_blank filter) source

/-- How the screen glows in scenes that begin with a filter. -/
structure Glows (filter : Filter) (scenes : List Scene) : Prop where
  /-- A pixel that a draw or a clear puts out, and that is then not drawn on, not scrolled and sees
  no other resolution, is lit in just as many pictures as the filter allows that was there when it
  went off, from the first picture on. -/
  fades : ∀ earlier out during later x y, scenes = earlier ++ out :: (during ++ later) →
    x < out.found.machine.screen.resolution.width →
    y < out.found.machine.screen.resolution.height →
    out.PutsOut x y → (∀ scene ∈ during, scene.Spares x y) →
    FadesFrom x y out.found.machine.screen.filter.delay (snapshots (out :: during))
  /-- No cell is on that glows, and none glows for longer than the filters allow that were there so
  far. -/
  cells : ∀ earlier scene later, scenes = earlier ++ scene :: later →
    scene.found.machine.screen.Kept (filter :: earlier.filterMap Scene.filter?) ∧
      scene.shown.machine.screen.Kept
        (filter :: earlier.filterMap Scene.filter? ++ scene.filter?.toList)

theorem glows_of_plays {run last : Run} {scenes : List Scene} {filter : Filter}
    (plays : Plays run scenes last) (kept : run.machine.screen.Kept [filter]) :
    Glows filter scenes := by
  refine ⟨?_, ?_⟩
  · intro earlier out during later x y cut column row putsOut spare
    rw [cut] at plays
    exact plays.fades_putOut column row putsOut spare
  · intro earlier scene later cut
    rw [cut] at plays
    have found : scene.found.machine.screen.Kept (filter :: earlier.filterMap Scene.filter?) :=
      plays.cut.1.kept kept
    exact ⟨found, Scene.kept_shown found⟩

/-- Pixels glow for as long as the filter has it, and no longer, whatever a booted machine meets
and however its filter is switched in between; and the cells keep to their filters, on the screen of
the machine as on any new screen, whatever is done to it. -/
theorem pixels_fade (rate : UInt32) (profile : Profile) (filter : Filter) (tape : Tape)
    (source : ProgramSource) (viewings : List Viewing) :
    let course := boot rate profile filter tape source
    Glows filter (course.scenes viewings) ∧
      (course.watch viewings).machine.screen.Kept
        (filter :: (course.scenes viewings).filterMap Scene.filter?) ∧
      ∀ other strokes, ((Screen.blank other).applyAll strokes).Kept
        (other :: strokes.filterMap Stroke.filter?) := by
  have plays := (boot rate profile filter tape source).plays_scenes viewings
  have kept := kept_boot rate profile filter tape source
  exact ⟨glows_of_plays plays kept, plays.kept kept, Screen.kept_applyAll⟩

/-- It draws four pixels and draws them again, and then clears the screen over and over. -/
def togglingCourse : Course :=
  .boot 180 (Profile.ofPlatform "toggling" .modern) .fixFlicker ⟨fun _ => 0, 0⟩
    ⟨[0xD0, 0x01, 0xD0, 0x01, 0x00, 0xE0, 0x12, 0x04], none⟩

/-- The filter is switched while the pixels glow. -/
def togglingViewings : List Viewing :=
  [.meet (.elapse 20000000), .switch .fade, .meet (.elapse 50000000)]

private theorem togglingFacts :
    let scenes := togglingCourse.scenes togglingViewings
    (scenes.take 2).map (fun scene => (scene.found.machine.screen.pixel 0 0).on) = [false, true] ∧
    (∀ scene ∈ (scenes.take 2).drop 1,
      (scene.shown.machine.screen.pixel 0 0).on = false ∧
      scene.found.machine.screen.resolution = .low ∧
      scene.found.machine.screen.filter = .fixFlicker ∧
      ∀ stroke ∈ scene.strokes, stroke.DrawsOrClears .low) ∧
    (∀ scene ∈ scenes.drop 2, scene.Spares 0 0) ∧ (snapshots (scenes.drop 1)).length = 4 := by
  decide +kernel

/-- The first two pictures show the pixel that went off, and the last two do not. -/
theorem pixels_fade_toggling :
    ∃ first out during, togglingCourse.scenes togglingViewings = [first] ++ out :: (during ++ []) ∧
      out.PutsOut 0 0 ∧ (∀ scene ∈ during, scene.Spares 0 0) ∧
      FadesFrom 0 0 2 (snapshots (out :: during)) ∧
      (snapshots (out :: during)).length = 4 := by
  obtain ⟨wereOn, facts, spare, pictures⟩ := togglingFacts
  have glows := (pixels_fade 180 (Profile.ofPlatform "toggling" .modern) .fixFlicker
    ⟨fun _ => 0, 0⟩ ⟨[0xD0, 0x01, 0xD0, 0x01, 0x00, 0xE0, 0x12, 0x04], none⟩
    togglingViewings).1
  rcases listed : togglingCourse.scenes togglingViewings with _ | ⟨first, _ | ⟨out, during⟩⟩
  · simp [listed] at wereOn
  · simp [listed] at wereOn
  · rw [listed] at wereOn facts spare pictures
    obtain ⟨isOff, resolution, filter, strokes⟩ := facts out List.mem_cons_self
    rw [← resolution] at strokes
    have wasOn : (out.found.machine.screen.pixel 0 0).on = true :=
      (List.cons.inj (List.cons.inj wereOn).2).1
    have whole : out :: during = out :: (during ++ []) := by
      rw [List.append_nil]
    have putsOut : out.PutsOut 0 0 := ⟨wasOn, strokes, isOff⟩
    have cut : togglingCourse.scenes togglingViewings = [first] ++ out :: (during ++ []) := by
      rw [listed, ← whole]
      rfl
    have fades := glows.fades [first] out during [] 0 0 cut
      out.found.machine.screen.resolution.width_pos
      out.found.machine.screen.resolution.height_pos putsOut spare
    rw [filter] at fades
    exact ⟨first, out, during, congrArg (first :: ·) whole, putsOut, spare, fades, pictures⟩

end Course
end Chip8
