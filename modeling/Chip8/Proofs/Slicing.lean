import Chip8.Proofs.Stretches

set_option autoImplicit false

/-!
How time is cut does not matter. A stretch of time that passes in two pieces runs the same
instructions as the whole stretch at once. The two ways can differ only when the program ends:
the whole stretch may then reach one more refresh, which a halted machine still gets, and which
moves its timers and its glowing points but nothing that a program computes.

`through_continues` compares the two ways along the refreshes; `Reached.tick_add` is the result.
-/

namespace Chip8

/-- Two machines that differ at most in their timers and in how long points that went off
still glow. -/
structure Machine.SameButFading (left right : Machine) : Prop where
  memory : left.memory = right.memory
  registers : left.registers = right.registers
  index : left.index = right.index
  pc : left.pc = right.pc
  stack : left.stack = right.stack
  flags : left.flags = right.flags
  keypad : left.keypad = right.keypad
  platform : left.platform = right.platform
  dialect : left.dialect = right.dialect
  tone : left.tone = right.tone
  tape : left.tape = right.tape
  resolution : left.screen.resolution = right.screen.resolution
  filter : left.screen.filter = right.screen.filter
  on : ∀ column row,
    (left.screen.grid.cell column row).on = (right.screen.grid.cell column row).on

theorem Machine.SameButFading.refl (machine : Machine) : machine.SameButFading machine :=
  ⟨rfl, rfl, rfl, rfl, rfl, rfl, rfl, rfl, rfl, rfl, rfl, rfl, rfl, fun _ _ => rfl⟩

namespace Run

theorem slot?_of_halted {run : Run} (halted : run.state = .halted) : run.slot? = none := by
  unfold slot?
  rw [halted]

theorem refresh_of_halted (run : Run) (halted : run.state = .halted) :
    run.refresh.state = .halted ∧ run.refresh.machine.SameButFading run.machine := by
  rcases run with ⟨state, machine, report⟩
  cases halted
  refine ⟨rfl, ⟨rfl, rfl, rfl, rfl, rfl, rfl, rfl, rfl, rfl, rfl, rfl, rfl, rfl, ?_⟩⟩
  intro column row
  change ((machine.screen.grid.map Pixel.age).cell column row).on = _
  by_cases inside : column < 128 ∧ row < 64
  · rw [Grid.cell_map _ _ inside]
    rfl
  · rw [Grid.cell_outside _ inside, Grid.cell_outside _ inside]

end Run

namespace Pacer

/-! ### A stretch cut before its first refresh -/

theorem runThrough_of_runFor {pacer : Pacer} (onTime : pacer.OnTime) {first : Nat}
    (short : first < pacer.untilRefresh) {machine : Machine} {report : Report} {run : Run}
    (ran : pacer.runFor first machine report = (run, none)) (second refreshes : Nat) :
    pacer.runThrough machine report (first + second) refreshes =
      (pacer.advance first run.state).runThrough run.machine run.report second refreshes := by
  cases refreshes with
  | zero =>
      rw [runThrough_zero, runThrough_zero, runFor_add onTime, ran]
      simp only [advance_advance]
  | succ refreshes =>
      have cut : first + (pacer.untilRefresh - first) = pacer.untilRefresh := by omega
      have left : first + second - pacer.untilRefresh =
          second - (pacer.untilRefresh - first) := by omega
      have ranUp := runFor_add onTime first (pacer.untilRefresh - first) machine report
      rw [cut, ran] at ranUp
      rw [runThrough_succ, runThrough_succ, untilRefresh_advance pacer run.state short, ranUp, left]
      simp only [advance_advance, cut]

theorem runThrough_of_fault {pacer : Pacer} (onTime : pacer.OnTime) {first : Nat}
    (short : first < pacer.untilRefresh) {machine : Machine} {report : Report} {run : Run}
    {fault : Fault} (ran : pacer.runFor first machine report = (run, some fault))
    (second refreshes : Nat) :
    ∃ nanoseconds, pacer.runThrough machine report (first + second) refreshes =
      ⟨pacer.advance nanoseconds run.state, run.machine, .error fault⟩ := by
  cases refreshes with
  | zero =>
      refine ⟨first + second, ?_⟩
      rw [runThrough_zero, runFor_add onTime, ran]
  | succ refreshes =>
      have cut : first + (pacer.untilRefresh - first) = pacer.untilRefresh := by omega
      have ranUp := runFor_add onTime first (pacer.untilRefresh - first) machine report
      rw [cut, ran] at ranUp
      refine ⟨pacer.untilRefresh, ?_⟩
      rw [runThrough_succ, ranUp]

theorem runThrough_of_halted (pacer : Pacer) (halted : pacer.state = .halted)
    (machine : Machine) (report : Report) (nanoseconds refreshes : Nat) :
    ∃ last, (pacer.runThrough machine report nanoseconds refreshes).result = .ok last ∧
      (pacer.runThrough machine report nanoseconds refreshes).pacer.state = .halted ∧
      (pacer.runThrough machine report nanoseconds refreshes).machine.SameButFading machine := by
  have stays (time : Nat) :
      pacer.runFor time machine report = (⟨.halted, machine, report⟩, none) := by
    rw [runFor, halted]
    exact Run.useSlots_of_blocked (Run.slot?_of_halted rfl) _
  cases refreshes with
  | zero =>
      rw [runThrough_zero, stays]
      exact ⟨report, rfl, rfl, .refl machine⟩
  | succ refreshes =>
      obtain ⟨still, same⟩ := Run.refresh_of_halted ⟨.halted, machine, report⟩ rfl
      rw [runThrough_succ, stays]
      simp only [still, if_true]
      exact ⟨_, rfl, rfl, same⟩

/-! ### Two pieces and the whole -/

/-- How a whole stretch goes on from its first piece: a fault ends both, after an end of the
program only a refresh can follow, and otherwise the whole is the rest behind the piece. -/
inductive Continues (piece : Ticked) (rest : Pacer → Machine → Report → Ticked)
    (whole : Ticked) : Prop where
  | failed (fault : Fault) (pieceFault : piece.result = .error fault)
      (wholeFault : whole.result = .error fault) (pieceHalted : piece.pacer.state = .halted)
      (wholeHalted : whole.pacer.state = .halted) (same : whole.machine = piece.machine)
  | ended (report last : Report) (pieceReport : piece.result = .ok report)
      (wholeReport : whole.result = .ok last) (pieceHalted : piece.pacer.state = .halted)
      (wholeHalted : whole.pacer.state = .halted)
      (same : whole.machine.SameButFading piece.machine)
  | wentOn (report : Report) (pieceReport : piece.result = .ok report)
      (runs : piece.pacer.state ≠ .halted)
      (same : whole = rest piece.pacer piece.machine report)

theorem through_continues (pacer : Pacer) (first second : Nat) (onTime : pacer.OnTime)
    (machine : Machine) (report : Report) :
    Continues (pacer.through machine report first)
      (fun later machine report => later.through machine report second)
      (pacer.through machine report (first + second)) := by
  revert onTime machine report
  induction pacer, first using refresh_induction with
  | short pacer first short =>
      intro onTime machine report
      rw [through_short short]
      cases ran : pacer.runFor first machine report with
      | mk run fault =>
          cases fault with
          | some fault =>
              have halted := Run.halted_of_fault ran
              obtain ⟨nanoseconds, whole⟩ := runThrough_of_fault onTime short ran second
                (pacer.refreshesIn (first + second))
              rw [through, whole]
              exact .failed fault rfl rfl halted halted rfl
          | none =>
              rw [through, runThrough_of_runFor onTime short ran,
                ← refreshesIn_advance pacer run.state short]
              by_cases halted : run.state = .halted
              · obtain ⟨last, result, still, same⟩ :=
                  runThrough_of_halted (pacer.advance first run.state) halted run.machine run.report
                    second ((pacer.advance first run.state).refreshesIn second)
                exact .ended run.report last rfl result halted still same
              · exact .wentOn run.report rfl halted rfl
  | long pacer more ih =>
      intro onTime machine report
      rw [Nat.add_assoc, through_untilRefresh_add, through_untilRefresh_add]
      cases ran : pacer.runFor pacer.untilRefresh machine report with
      | mk run fault =>
          cases fault with
          | some fault =>
              have halted := Run.halted_of_fault ran
              exact .failed fault rfl rfl halted halted rfl
          | none =>
              by_cases halted : run.refresh.state = .halted
              · simp only [halted, if_true]
                exact .ended _ _ rfl rfl rfl rfl (.refl _)
              · simp only [halted, if_false]
                exact ih _ (onTime_advance _ _ _) _ _

/-! ### The report before a stretch -/

theorem runFor_after (pacer : Pacer) (nanoseconds : Nat) (machine : Machine)
    (earlier report : Report) :
    pacer.runFor nanoseconds machine (earlier ++ report) =
      ((pacer.runFor nanoseconds machine report).1.after earlier,
        (pacer.runFor nanoseconds machine report).2) :=
  runFor_image (Run.mirrored_after earlier) pacer nanoseconds machine report

theorem through_after (pacer : Pacer) (nanoseconds : Nat) (machine : Machine)
    (earlier report : Report) :
    pacer.through machine (earlier ++ report) nanoseconds =
      (pacer.through machine report nanoseconds).after earlier :=
  through_image (Run.mirrored_after earlier) pacer nanoseconds machine report

/-! ### The instructions of a stretch -/

def stepsThrough (pacer : Pacer) (machine : Machine) (nanoseconds : Nat) : Nat → List Machine
  | 0 => Run.steps (pacer.slotsIn nanoseconds) ⟨pacer.state, machine, Report.none⟩
  | refreshes + 1 =>
      Run.steps (pacer.slotsIn pacer.untilRefresh) ⟨pacer.state, machine, Report.none⟩ ++
        match pacer.runFor pacer.untilRefresh machine Report.none with
        | (_, some _) => []
        | (run, none) =>
            if run.refresh.state = .halted then []
            else
              (pacer.advance pacer.untilRefresh run.refresh.state).stepsThrough run.refresh.machine
                (nanoseconds - pacer.untilRefresh) refreshes

/-- The machines that carry out an instruction while time goes by, each as the instruction
finds it: the sequence of the instructions with all that they could see. -/
def steps (pacer : Pacer) (machine : Machine) (nanoseconds : Nat) : List Machine :=
  pacer.stepsThrough machine nanoseconds (pacer.refreshesIn nanoseconds)

theorem steps_short {pacer : Pacer} {nanoseconds : Nat} (short : nanoseconds < pacer.untilRefresh)
    (machine : Machine) :
    pacer.steps machine nanoseconds =
      Run.steps (pacer.slotsIn nanoseconds) ⟨pacer.state, machine, Report.none⟩ := by
  rw [steps, (refreshesIn_eq_zero_iff pacer nanoseconds).mpr short, stepsThrough]

theorem steps_untilRefresh_add (pacer : Pacer) (machine : Machine) (report : Report) (more : Nat) :
    pacer.steps machine (pacer.untilRefresh + more) =
      Run.steps (pacer.slotsIn pacer.untilRefresh) ⟨pacer.state, machine, report⟩ ++
        match pacer.runFor pacer.untilRefresh machine report with
        | (_, some _) => []
        | (run, none) =>
            if run.refresh.state = .halted then []
            else
              (pacer.advance pacer.untilRefresh run.refresh.state).steps run.refresh.machine
                more := by
  have unreported := runFor_after pacer pacer.untilRefresh machine report Report.none
  rw [Report.append_none] at unreported
  rw [steps, refreshesIn_untilRefresh_add pacer .running, stepsThrough, Nat.add_sub_cancel_left,
    unreported, Run.steps_unreported _ ⟨pacer.state, machine, report⟩]
  rcases pacer.runFor pacer.untilRefresh machine Report.none with ⟨run, fault⟩
  cases fault with
  | some fault => rfl
  | none =>
      simp only [Run.refresh_after, Run.state_after, Run.machine_after]
      rfl

theorem steps_of_halted (pacer : Pacer) (halted : pacer.state = .halted) (machine : Machine)
    (nanoseconds : Nat) : pacer.steps machine nanoseconds = [] := by
  have blocked : Run.slot? ⟨pacer.state, machine, Report.none⟩ = none :=
    Run.slot?_of_halted halted
  have still := (Run.refresh_of_halted ⟨pacer.state, machine, Report.none⟩ halted).1
  unfold steps
  cases pacer.refreshesIn nanoseconds with
  | zero => exact Run.steps_of_blocked blocked _
  | succ refreshes =>
      rw [stepsThrough, Run.steps_of_blocked blocked, runFor, Run.useSlots_of_blocked blocked]
      simp only [still, if_true, List.append_nil]

theorem steps_of_runFor {pacer : Pacer} (onTime : pacer.OnTime) {first : Nat}
    (short : first < pacer.untilRefresh) (machine : Machine) (second : Nat) :
    pacer.steps machine (first + second) =
      Run.steps (pacer.slotsIn first) ⟨pacer.state, machine, Report.none⟩ ++
        match pacer.runFor first machine Report.none with
        | (_, some _) => []
        | (run, none) => (pacer.advance first run.state).steps run.machine second := by
  by_cases reaches : first + second < pacer.untilRefresh
  · -- no refresh comes up in either piece
    have laterShort (state : RunState) :
        second < (pacer.advance first state).untilRefresh := by
      rw [untilRefresh_advance pacer state short]
      omega
    rw [steps_short reaches, slotsIn_add onTime first second pacer.state, Run.steps_add, ← runFor]
    rcases pacer.runFor first machine Report.none with ⟨run, fault⟩
    cases fault with
    | some fault => rfl
    | none =>
        simp only [steps_short (laterShort run.state), Run.steps_unreported _ run]
        rfl
  · -- the first refresh comes up in the second piece
    have laterUntil (state : RunState) :
        (pacer.advance first state).untilRefresh = pacer.untilRefresh - first :=
      untilRefresh_advance pacer state short
    have cut : first + (pacer.untilRefresh - first) = pacer.untilRefresh := by omega
    obtain ⟨more, rfl⟩ : ∃ more, second = pacer.untilRefresh - first + more :=
      Nat.exists_eq_add_of_le (by omega)
    have slots := slotsIn_add onTime first (pacer.untilRefresh - first) pacer.state
    have ranUp := runFor_add onTime first (pacer.untilRefresh - first) machine Report.none
    rw [cut] at slots ranUp
    rw [← Nat.add_assoc, cut, steps_untilRefresh_add pacer machine Report.none, slots,
      Run.steps_add, ranUp, ← runFor]
    rcases pacer.runFor first machine Report.none with ⟨run, fault⟩
    cases fault with
    | some fault => simp only [List.append_nil]
    | none =>
        have behind := steps_untilRefresh_add (pacer.advance first run.state) run.machine
          run.report more
        simp only [laterUntil, advance_advance, cut] at behind
        simp only [behind, List.append_assoc]
        rfl

theorem steps_add (pacer : Pacer) (first second : Nat) (onTime : pacer.OnTime)
    (machine : Machine) :
    pacer.steps machine (first + second) =
      pacer.steps machine first ++
        (pacer.through machine Report.none first).pacer.steps
          (pacer.through machine Report.none first).machine second := by
  revert onTime machine
  induction pacer, first using refresh_induction with
  | short pacer first short =>
      intro onTime machine
      rw [steps_of_runFor onTime short, steps_short short, through_short short]
      cases ran : pacer.runFor first machine Report.none with
      | mk run fault =>
          cases fault with
          | some fault =>
              have halted := Run.halted_of_fault ran
              rw [steps_of_halted (pacer.advance first run.state) halted]
          | none => rfl
  | long pacer more ih =>
      intro onTime machine
      rw [Nat.add_assoc, steps_untilRefresh_add pacer machine Report.none,
        steps_untilRefresh_add pacer machine Report.none, through_untilRefresh_add,
        List.append_assoc]
      congr 1
      cases ran : pacer.runFor pacer.untilRefresh machine Report.none with
      | mk run fault =>
          cases fault with
          | some fault =>
              have halted := Run.halted_of_fault ran
              rw [steps_of_halted (pacer.advance pacer.untilRefresh run.state) halted]
              rfl
          | none =>
              by_cases halted : run.refresh.state = .halted
              · simp only [halted, if_true]
                rw [steps_of_halted _ rfl]
                rfl
              · have unreported := through_after
                  (pacer.advance pacer.untilRefresh run.refresh.state) more run.refresh.machine
                  run.refresh.report Report.none
                rw [Report.append_none] at unreported
                simp only [halted, if_false, unreported]
                exact ih _ (onTime_advance _ _ _) _

theorem instructions_refresh (run : Run) :
    run.refresh.report.instructions = run.report.instructions := by
  rcases run with ⟨state, machine, report⟩
  cases state <;> exact Counter.add_zero _

theorem instructions_through (pacer : Pacer) (nanoseconds : Nat) (machine : Machine)
    (report last : Report)
    (finished : (pacer.through machine report nanoseconds).result = .ok last) :
    last.instructions =
      report.instructions + .ofNat (pacer.steps machine nanoseconds).length := by
  revert machine report finished
  induction pacer, nanoseconds using refresh_induction with
  | short pacer nanoseconds short =>
      intro machine report finished
      have counted := Run.instructions_useSlots (pacer.slotsIn nanoseconds)
        ⟨pacer.state, machine, report⟩
      rw [through_short short] at finished
      rw [steps_short short, ← Run.steps_unreported _ ⟨pacer.state, machine, report⟩]
      rw [← runFor] at counted
      cases ran : pacer.runFor nanoseconds machine report with
      | mk run fault =>
          rw [ran] at finished counted
          cases fault with
          | some fault => cases finished
          | none =>
              cases finished
              exact counted rfl
  | long pacer more ih =>
      intro machine report finished
      have counted := Run.instructions_useSlots (pacer.slotsIn pacer.untilRefresh)
        ⟨pacer.state, machine, report⟩
      rw [through_untilRefresh_add] at finished
      rw [steps_untilRefresh_add pacer machine report]
      rw [← runFor] at counted
      cases ran : pacer.runFor pacer.untilRefresh machine report with
      | mk run fault =>
          rw [ran] at finished counted
          cases fault with
          | some fault => cases finished
          | none =>
              have upToRefresh := counted rfl
              by_cases halted : run.refresh.state = .halted
              · simp only [halted, if_true] at finished ⊢
                cases finished
                rw [instructions_refresh, upToRefresh, List.append_nil]
              · simp only [halted, if_false] at finished ⊢
                rw [ih _ _ _ finished, instructions_refresh, upToRefresh, List.length_append,
                  Counter.ofNat_add, Counter.add_assoc]

/-! ### Two ticks and one -/

/-- The time of a stretch may be cut into two. What a program computes is the same after both
pieces as after the whole, and so is a fault. If the machine has not halted, everything is the
same, and the reports of the pieces add up; a count of the whole that does not fit has run over. -/
structure SameInPieces (earlier later whole : Ticked) : Prop where
  machine : whole.machine.SameButFading later.machine
  fault : ∀ fault, whole.result = .error fault ↔
    earlier.result = .error fault ∨ later.result = .error fault
  running : whole.pacer.isRunning = true →
    whole.machine = later.machine ∧ whole.pacer = later.pacer ∧
    ∃ total before after,
      whole.result = .ok total ∧ earlier.result = .ok before ∧ later.result = .ok after ∧
      total.instructions = before.instructions + after.instructions ∧
      total.frames = before.frames + after.frames ∧
      total.underflows = before.underflows + after.underflows ∧
      total.tones = before.tones ++ after.tones ∧
      total.frame = after.frame.or before.frame

theorem sameInPieces_of_halted {earlier later whole : Ticked}
    (halted : whole.pacer.state = .halted)
    (machine : whole.machine.SameButFading later.machine)
    (fault : ∀ fault, whole.result = .error fault ↔
      earlier.result = .error fault ∨ later.result = .error fault) :
    SameInPieces earlier later whole :=
  ⟨machine, fault, fun runs => absurd halted ((isRunning_iff _).mp runs)⟩

theorem sameInPieces_after {earlier : Ticked} {report : Report}
    (reported : earlier.result = .ok report) {pacer : Pacer} {machine : Machine}
    {nanoseconds : Nat} {later : Ticked} (ticked : pacer.tick machine nanoseconds = later) :
    SameInPieces earlier later (later.after report) := by
  cases laterResult : later.result with
  | error fault =>
      have halted : later.pacer.state = .halted := by
        rw [← ticked] at laterResult ⊢
        exact halted_of_tick_fault laterResult
      refine sameInPieces_of_halted halted (.refl later.machine) ?_
      intro other
      simp [Ticked.after, reported, laterResult, Except.map]
  | ok after =>
      refine ⟨.refl _, ?_, ?_⟩
      · intro other
        simp [Ticked.after, reported, laterResult, Except.map]
      · intro runs
        refine ⟨rfl, rfl, report ++ after, report, after, ?_, reported, laterResult, rfl, rfl, rfl,
          rfl, rfl⟩
        simp [Ticked.after, laterResult, Except.map]

theorem Continues.sameInPieces {earlier whole : Ticked} {second : Nat}
    (continues : Continues earlier
      (fun pacer machine report => pacer.through machine report second) whole) :
    SameInPieces earlier (earlier.pacer.tick earlier.machine second) whole := by
  cases continues with
  | failed fault pieceFault wholeFault pieceHalted wholeHalted same =>
      rw [tick_of_halted pieceHalted]
      apply sameInPieces_of_halted wholeHalted
      · rw [same]
        exact .refl _
      · intro other
        rw [pieceFault, wholeFault]
        simp
  | ended report last pieceReport wholeReport pieceHalted wholeHalted same =>
      rw [tick_of_halted pieceHalted]
      refine sameInPieces_of_halted wholeHalted same ?_
      intro other
      rw [pieceReport, wholeReport]
      simp
  | wentOn report pieceReport runs same =>
      have unreported := through_after earlier.pacer second earlier.machine report Report.none
      rw [Report.append_none, ← tick_of_running runs] at unreported
      rw [same, unreported]
      exact sameInPieces_after pieceReport rfl

/-- Two ticks and the tick of both times carry out the same instructions, each on the same machine
and as many as the reports count, and end alike. -/
theorem Reached.tick_add {pacer : Pacer} {machine : Machine} (reached : pacer.Reached machine)
    (first second : Nat) :
    let earlier := pacer.tick machine first
    let later := earlier.pacer.tick earlier.machine second
    let whole := pacer.tick machine (first + second)
    pacer.steps machine (first + second) =
        pacer.steps machine first ++ earlier.pacer.steps earlier.machine second ∧
      (∀ total, whole.result = .ok total →
        total.instructions = .ofNat (pacer.steps machine (first + second)).length) ∧
      SameInPieces earlier later whole := by
  intro earlier later whole
  by_cases halted : pacer.state = .halted
  · have still (nanoseconds : Nat) := tick_of_halted halted machine nanoseconds
    have earlierStill : earlier = ⟨pacer, machine, .ok Report.none⟩ := still first
    have laterStill : later = ⟨pacer, machine, .ok Report.none⟩ := by
      unfold later
      rw [earlierStill]
      exact still second
    have wholeStill : whole = ⟨pacer, machine, .ok Report.none⟩ := still (first + second)
    rw [earlierStill, laterStill, wholeStill, steps_of_halted pacer halted,
      steps_of_halted pacer halted, steps_of_halted pacer halted]
    refine ⟨rfl, ?_, sameInPieces_of_halted halted (.refl machine) ?_⟩
    · intro total reported
      cases reported
      rfl
    · intro fault
      simp
  · have earlierThrough : earlier = pacer.through machine Report.none first :=
      tick_of_running halted machine first
    have wholeThrough : whole = pacer.through machine Report.none (first + second) :=
      tick_of_running halted machine (first + second)
    have sameSteps := steps_add pacer first second reached.onTime machine
    have continues := through_continues pacer first second reached.onTime machine Report.none
    rw [← earlierThrough] at sameSteps continues
    rw [← wholeThrough] at continues
    refine ⟨sameSteps, ?_, continues.sameInPieces⟩
    intro total reported
    rw [wholeThrough] at reported
    have counted := instructions_through pacer (first + second) machine Report.none total reported
    exact counted.trans (Counter.zero_add _)

def exiting : Machine :=
  ((Machine.ofProfile (Profile.ofPlatform "exit" .superChip) .fade ⟨fun _ => 0, 0⟩).load
    ⟨[0x00, 0xFD], none⟩).1

theorem exiting_reached : (ofRate 600).Reached exiting :=
  .fresh 600 (Profile.ofPlatform "exit" .superChip) .fade ⟨fun _ => 0, 0⟩ ⟨[0x00, 0xFD], none⟩
    exiting 2 rfl

/-- Cut behind the end of the program, only the whole stretch comes to a refresh. -/
theorem Reached.tick_add_exiting :
    (ofRate 600).Reached exiting ∧
      (ofRate 600).steps exiting (10000000 + 10000000) =
        (ofRate 600).steps exiting 10000000 ++
          ((ofRate 600).tick exiting 10000000).pacer.steps
            ((ofRate 600).tick exiting 10000000).machine 10000000 ∧
      SameInPieces ((ofRate 600).tick exiting 10000000)
        (((ofRate 600).tick exiting 10000000).pacer.tick
          ((ofRate 600).tick exiting 10000000).machine 10000000)
        ((ofRate 600).tick exiting (10000000 + 10000000)) :=
  ⟨exiting_reached, (exiting_reached.tick_add 10000000 10000000).1,
    (exiting_reached.tick_add 10000000 10000000).2.2⟩

end Pacer
end Chip8
