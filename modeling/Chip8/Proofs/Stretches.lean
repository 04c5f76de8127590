import Chip8.Proofs.Reached
import Chip8.Proofs.Slots

set_option autoImplicit false

/-!
Stretches of time between refreshes. `advance` is the pacer behind a stretch;
`runThrough_short` and `runThrough_untilRefresh_add` say how a stretch runs that ends before the
next refresh and one that goes on behind it, and `refresh_induction` is the induction along the
refreshes that every law of a stretch of time uses.
-/

namespace Chip8

def Ticked.image (onMachine : Machine → Machine) (onReport : Report → Report) (ticked : Ticked) :
    Ticked :=
  ⟨ticked.pacer, onMachine ticked.machine, ticked.result.map onReport⟩

def Ticked.after (earlier : Report) (ticked : Ticked) : Ticked :=
  { ticked with result := ticked.result.map (earlier ++ ·) }

namespace Pacer

theorem isRunning_iff (pacer : Pacer) : pacer.isRunning = true ↔ pacer.state ≠ .halted :=
  bne_iff_ne

/-- The pacer behind a stretch of time that left the machine in a state. -/
def advance (pacer : Pacer) (nanoseconds : Nat) (state : RunState) : Pacer :=
  { pacer.elapse nanoseconds with state := state }

theorem onTime_advance (pacer : Pacer) (nanoseconds : Nat) (state : RunState) :
    (pacer.advance nanoseconds state).OnTime := rfl

theorem sinceRefresh_advance (pacer : Pacer) (nanoseconds : Nat) (state : RunState) :
    (pacer.advance nanoseconds state).sinceRefresh.val =
      (pacer.sinceRefresh.val + nanoseconds) % refreshInterval := by
  change (pacer.sinceRefresh.val + nanoseconds % refreshInterval) % refreshInterval = _
  exact Nat.add_mod_mod _ _ _

theorem advance_advance (pacer : Pacer) (first second : Nat) (between state : RunState) :
    (pacer.advance first between).advance second state = pacer.advance (first + second) state := by
  have clocks : ((pacer.advance first between).advance second state).clock =
      (pacer.advance (first + second) state).clock := Nat.add_assoc _ _ _
  have refreshes : ((pacer.advance first between).advance second state).sinceRefresh =
      (pacer.advance (first + second) state).sinceRefresh := by
    apply Fin.ext
    rw [sinceRefresh_advance, sinceRefresh_advance, sinceRefresh_advance, Nat.mod_add_mod,
      Nat.add_assoc]
  have slots : ((pacer.advance first between).advance second state).granted =
      (pacer.advance (first + second) state).granted := congrArg (slotsBy pacer.rate) clocks
  exact Pacer.mk.injEq .. |>.mpr ⟨rfl, rfl, clocks, refreshes, slots⟩

theorem sinceRefresh_advance_short (pacer : Pacer) {nanoseconds : Nat} (state : RunState)
    (short : nanoseconds < pacer.untilRefresh) :
    (pacer.advance nanoseconds state).sinceRefresh.val =
      pacer.sinceRefresh.val + nanoseconds := by
  unfold untilRefresh at short
  rw [sinceRefresh_advance, Nat.mod_eq_of_lt (Nat.add_lt_of_lt_sub' short)]

theorem untilRefresh_advance (pacer : Pacer) {nanoseconds : Nat} (state : RunState)
    (short : nanoseconds < pacer.untilRefresh) :
    (pacer.advance nanoseconds state).untilRefresh = pacer.untilRefresh - nanoseconds := by
  rw [untilRefresh, sinceRefresh_advance_short pacer state short, untilRefresh, Nat.sub_sub]

theorem refreshesIn_advance (pacer : Pacer) {nanoseconds : Nat} (state : RunState)
    (short : nanoseconds < pacer.untilRefresh) (more : Nat) :
    (pacer.advance nanoseconds state).refreshesIn more =
      pacer.refreshesIn (nanoseconds + more) := by
  rw [refreshesIn, sinceRefresh_advance_short pacer state short, refreshesIn, Nat.add_assoc]

theorem sinceRefresh_add_untilRefresh (pacer : Pacer) :
    pacer.sinceRefresh.val + pacer.untilRefresh = refreshInterval :=
  Nat.add_sub_of_le (Nat.le_of_lt pacer.sinceRefresh.isLt)

theorem refreshesIn_untilRefresh_add (pacer : Pacer) (state : RunState) (more : Nat) :
    pacer.refreshesIn (pacer.untilRefresh + more) =
      (pacer.advance pacer.untilRefresh state).refreshesIn more + 1 := by
  rw [refreshesIn, refreshesIn, sinceRefresh_advance, ← Nat.add_assoc,
    sinceRefresh_add_untilRefresh, Nat.mod_self, Nat.zero_add, Nat.add_comm refreshInterval,
    Nat.add_div_right _ (Nat.succ_pos 16666666)]

theorem refreshesIn_eq_zero_iff (pacer : Pacer) (nanoseconds : Nat) :
    pacer.refreshesIn nanoseconds = 0 ↔ nanoseconds < pacer.untilRefresh := by
  have positive : 0 < refreshInterval := Nat.succ_pos 16666666
  have whole := pacer.sinceRefresh_add_untilRefresh
  rw [refreshesIn, Nat.div_eq_zero_iff_lt positive]
  constructor
  · intro below
    omega
  · intro short
    omega

theorem slotsBy_mono (rate : UInt32) {earlier later : Nat} (before : earlier ≤ later) :
    slotsBy rate earlier ≤ slotsBy rate later := by
  unfold slotsBy
  exact Nat.div_le_div_right (Nat.add_le_add_left (Nat.mul_le_mul_right _ before) _)

/-- Rounding loses no slot between two pieces of time, because each piece is counted from the
start. -/
theorem slotsIn_add {pacer : Pacer} (onTime : pacer.OnTime) (first second : Nat)
    (state : RunState) :
    pacer.slotsIn (first + second) =
      pacer.slotsIn first + (pacer.advance first state).slotsIn second := by
  have upToFirst := slotsBy_mono pacer.rate (Nat.le_add_right pacer.clock first)
  have upToSecond := slotsBy_mono pacer.rate (Nat.le_add_right (pacer.clock + first) second)
  change slotsBy pacer.rate (pacer.clock + (first + second)) - pacer.granted =
    (slotsBy pacer.rate (pacer.clock + first) - pacer.granted) +
      (slotsBy pacer.rate (pacer.clock + first + second) - slotsBy pacer.rate (pacer.clock + first))
  rw [onTime, ← Nat.add_assoc]
  omega

/-- Time runs up to the next refresh or beyond it. What holds of every stretch that ends before the
next refresh, and goes over from behind a refresh to before it, holds of every stretch. -/
theorem refresh_induction {holds : Pacer → Nat → Prop}
    (short : ∀ pacer nanoseconds, nanoseconds < pacer.untilRefresh → holds pacer nanoseconds)
    (long : ∀ pacer more, (∀ state, holds (pacer.advance pacer.untilRefresh state) more) →
      holds pacer (pacer.untilRefresh + more))
    (pacer : Pacer) (nanoseconds : Nat) : holds pacer nanoseconds := by
  generalize due : pacer.refreshesIn nanoseconds = refreshes
  induction refreshes generalizing pacer nanoseconds with
  | zero => exact short pacer nanoseconds ((refreshesIn_eq_zero_iff pacer nanoseconds).mp due)
  | succ refreshes ih =>
      have reaches : pacer.untilRefresh ≤ nanoseconds := by
        have notShort := (not_congr (refreshesIn_eq_zero_iff pacer nanoseconds)).mp (by omega)
        omega
      obtain ⟨more, rfl⟩ := Nat.exists_eq_add_of_le reaches
      apply long
      intro state
      rw [refreshesIn_untilRefresh_add pacer state] at due
      exact ih _ _ (Nat.succ.inj due)

/-! ### Running through refreshes -/

theorem runThrough_zero (pacer : Pacer) (machine : Machine) (report : Report)
    (nanoseconds : Nat) :
    pacer.runThrough machine report nanoseconds 0 =
      match pacer.runFor nanoseconds machine report with
      | (run, some fault) => ⟨pacer.advance nanoseconds run.state, run.machine, .error fault⟩
      | (run, none) => ⟨pacer.advance nanoseconds run.state, run.machine, .ok run.report⟩ := by
  rw [runThrough]
  rcases pacer.runFor nanoseconds machine report with ⟨run, fault⟩
  cases fault <;> rfl

theorem runThrough_succ (pacer : Pacer) (machine : Machine) (report : Report)
    (nanoseconds refreshes : Nat) :
    pacer.runThrough machine report nanoseconds (refreshes + 1) =
      match pacer.runFor pacer.untilRefresh machine report with
      | (run, some fault) =>
          ⟨pacer.advance pacer.untilRefresh run.state, run.machine, .error fault⟩
      | (run, none) =>
          if run.refresh.state = .halted then
            ⟨pacer.advance pacer.untilRefresh .halted, run.refresh.machine, .ok run.refresh.report⟩
          else
            (pacer.advance pacer.untilRefresh run.refresh.state).runThrough run.refresh.machine
              run.refresh.report (nanoseconds - pacer.untilRefresh) refreshes := by
  rw [runThrough]
  rcases pacer.runFor pacer.untilRefresh machine report with ⟨run, fault⟩
  cases fault with
  | some fault => rfl
  | none =>
      by_cases halted : run.refresh.state = .halted
      · simp only [halted, isRunning, bne_self_eq_false, Bool.false_eq_true, if_false, if_true]
        rfl
      · simp only [isRunning, bne_iff_ne, ne_eq, halted, not_false_eq_true, if_true, if_false]
        rfl

theorem runFor_add {pacer : Pacer} (onTime : pacer.OnTime) (first second : Nat)
    (machine : Machine) (report : Report) :
    pacer.runFor (first + second) machine report =
      match pacer.runFor first machine report with
      | (run, some fault) => (run, some fault)
      | (run, none) => (pacer.advance first run.state).runFor second run.machine run.report := by
  rw [runFor, slotsIn_add onTime first second pacer.state, Run.useSlots_add]
  rfl

def through (pacer : Pacer) (machine : Machine) (report : Report) (nanoseconds : Nat) : Ticked :=
  pacer.runThrough machine report nanoseconds (pacer.refreshesIn nanoseconds)

theorem tick_of_running {pacer : Pacer} (runs : pacer.state ≠ .halted) (machine : Machine)
    (nanoseconds : Nat) :
    pacer.tick machine nanoseconds = pacer.through machine Report.none nanoseconds :=
  if_pos ((isRunning_iff pacer).mpr runs)

theorem tick_of_halted {pacer : Pacer} (halted : pacer.state = .halted) (machine : Machine)
    (nanoseconds : Nat) : pacer.tick machine nanoseconds = ⟨pacer, machine, .ok Report.none⟩ :=
  if_neg (fun runs => (isRunning_iff pacer).mp runs halted)

theorem through_short {pacer : Pacer} {nanoseconds : Nat} (short : nanoseconds < pacer.untilRefresh)
    (machine : Machine) (report : Report) :
    pacer.through machine report nanoseconds =
      match pacer.runFor nanoseconds machine report with
      | (run, some fault) => ⟨pacer.advance nanoseconds run.state, run.machine, .error fault⟩
      | (run, none) => ⟨pacer.advance nanoseconds run.state, run.machine, .ok run.report⟩ := by
  rw [through, (refreshesIn_eq_zero_iff pacer nanoseconds).mpr short, runThrough_zero]

theorem through_untilRefresh_add (pacer : Pacer) (machine : Machine) (report : Report)
    (more : Nat) :
    pacer.through machine report (pacer.untilRefresh + more) =
      match pacer.runFor pacer.untilRefresh machine report with
      | (run, some fault) =>
          ⟨pacer.advance pacer.untilRefresh run.state, run.machine, .error fault⟩
      | (run, none) =>
          if run.refresh.state = .halted then
            ⟨pacer.advance pacer.untilRefresh .halted, run.refresh.machine, .ok run.refresh.report⟩
          else
            (pacer.advance pacer.untilRefresh run.refresh.state).through run.refresh.machine
              run.refresh.report more := by
  rw [through, refreshesIn_untilRefresh_add pacer .running, runThrough_succ,
    Nat.add_sub_cancel_left]
  rfl

theorem runFor_image {onMachine : Machine → Machine} {onReport : Report → Report}
    (mirrored : Run.Mirrored onMachine onReport) (pacer : Pacer) (nanoseconds : Nat)
    (machine : Machine) (report : Report) :
    pacer.runFor nanoseconds (onMachine machine) (onReport report) =
      ((pacer.runFor nanoseconds machine report).1.image onMachine onReport,
        (pacer.runFor nanoseconds machine report).2) :=
  mirrored.useSlots _ ⟨pacer.state, machine, report⟩

theorem through_image {onMachine : Machine → Machine} {onReport : Report → Report}
    (mirrored : Run.Mirrored onMachine onReport) (pacer : Pacer) (nanoseconds : Nat)
    (machine : Machine) (report : Report) :
    pacer.through (onMachine machine) (onReport report) nanoseconds =
      (pacer.through machine report nanoseconds).image onMachine onReport := by
  revert machine report
  induction pacer, nanoseconds using refresh_induction with
  | short pacer nanoseconds short =>
      intro machine report
      rw [through_short short, through_short short, runFor_image mirrored]
      rcases pacer.runFor nanoseconds machine report with ⟨run, fault⟩
      cases fault <;> rfl
  | long pacer more ih =>
      intro machine report
      rw [through_untilRefresh_add, through_untilRefresh_add, runFor_image mirrored]
      rcases pacer.runFor pacer.untilRefresh machine report with ⟨run, fault⟩
      cases fault with
      | some fault => rfl
      | none =>
          simp only [mirrored.refresh]
          by_cases halted : run.refresh.state = .halted
          · have imageHalted : (run.refresh.image onMachine onReport).state = .halted := halted
            rw [if_pos halted, if_pos imageHalted]
            rfl
          · have imageRuns : (run.refresh.image onMachine onReport).state ≠ .halted := halted
            rw [if_neg halted, if_neg imageRuns]
            exact ih _ _ _

theorem through_keeps {holds : Run → Prop} {fails : Run → Fault → Prop}
    (kept : ∀ run later, holds run → Run.SlotUse run later none → holds later)
    (failed : ∀ run later fault, holds run → Run.SlotUse run later (some fault) →
      fails later fault)
    (refreshed : ∀ run, holds run → holds run.refresh) (pacer : Pacer) (nanoseconds : Nat)
    (machine : Machine) (report : Report) (before : holds ⟨pacer.state, machine, report⟩) :
    match pacer.through machine report nanoseconds with
    | ⟨later, last, .ok report⟩ => holds ⟨later.state, last, report⟩
    | ⟨later, last, .error fault⟩ => ∃ report, fails ⟨later.state, last, report⟩ fault := by
  revert machine report before
  induction pacer, nanoseconds using refresh_induction with
  | short pacer nanoseconds short =>
      intro machine report before
      have used := Run.useSlots_keeps kept failed (pacer.slotsIn nanoseconds) _ before
      rw [through_short short]
      rw [← runFor] at used
      cases ran : pacer.runFor nanoseconds machine report with
      | mk run fault =>
          rw [ran] at used
          cases fault with
          | some fault => exact ⟨run.report, used⟩
          | none => exact used
  | long pacer more ih =>
      intro machine report before
      have used := Run.useSlots_keeps kept failed (pacer.slotsIn pacer.untilRefresh) _ before
      rw [through_untilRefresh_add]
      rw [← runFor] at used
      cases ran : pacer.runFor pacer.untilRefresh machine report with
      | mk run fault =>
          rw [ran] at used
          cases fault with
          | some fault => exact ⟨run.report, used⟩
          | none =>
              have after := refreshed run used
              by_cases halted : run.refresh.state = .halted
              · simp only [halted, if_true]
                rw [← halted]
                exact after
              · simp only [halted, if_false]
                exact ih _ _ _ after

theorem tick_keeps {holds : Run → Prop} {fails : Run → Fault → Prop}
    (kept : ∀ run later, holds run → Run.SlotUse run later none → holds later)
    (failed : ∀ run later fault, holds run → Run.SlotUse run later (some fault) →
      fails later fault)
    (refreshed : ∀ run, holds run → holds run.refresh) (pacer : Pacer) (machine : Machine)
    (nanoseconds : Nat) (before : holds ⟨pacer.state, machine, Report.none⟩) :
    match pacer.tick machine nanoseconds with
    | ⟨later, last, .ok report⟩ => holds ⟨later.state, last, report⟩
    | ⟨later, last, .error fault⟩ => ∃ report, fails ⟨later.state, last, report⟩ fault := by
  by_cases halted : pacer.state = .halted
  · rw [tick_of_halted halted]
    exact before
  · rw [tick_of_running halted]
    exact through_keeps kept failed refreshed pacer nanoseconds machine Report.none before

theorem halted_of_tick_fault {pacer : Pacer} {machine : Machine} {nanoseconds : Nat}
    {fault : Fault} (failed : (pacer.tick machine nanoseconds).result = .error fault) :
    (pacer.tick machine nanoseconds).pacer.state = .halted := by
  have halts : ∀ run later fault, True → Run.SlotUse run later (some fault) →
      later.state = .halted := by
    intro run later fault _ use
    cases use
    rfl
  have kept := tick_keeps (fun _ _ _ _ => trivial) halts (fun _ _ => trivial) pacer machine
    nanoseconds trivial
  rcases tickedAt : pacer.tick machine nanoseconds with ⟨later, last, result⟩
  rw [tickedAt] at failed kept
  cases failed
  obtain ⟨_, halts⟩ := kept
  exact halts

end Pacer
end Chip8
