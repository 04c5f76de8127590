import Chip8.Pacer.Run

set_option autoImplicit false

/-!
Slots one at a time. `slot?` is what a single slot does, if anything can use it, and
`useSlots_succ` says that using up slots is nothing else. From it follow the facts about any
number of slots: they can be used up in two portions (`useSlots_add`), the report before them
does not matter (`mirrored_after`), and what every slot keeps they keep (`useSlots_keeps`).

`steps` lists the machines that carry out an instruction, each as the instruction finds it.
-/

namespace Chip8
namespace Run

/-- What one slot does; nothing if no machine in this state can use it. -/
def slot? (run : Run) : Option (Run × Option Fault) :=
  match run.state with
  | .halted => none
  | .awaitingRefresh _ => none
  | .awaitingKey x =>
      (run.machine.takeKey? x).map fun machine =>
        ({ run with state := .running, machine := machine }, none)
  | .running => some run.execute

/-- The ways in which a slot is used: it ends a wait for a key, it is good for an instruction, or
it is lost on a word that is no instruction. -/
inductive SlotUse (run : Run) : Run → Option Fault → Prop where
  | took (x : Register) (machine : Machine) (waits : run.state = .awaitingKey x)
      (found : run.machine.takeKey? x = some machine) :
      SlotUse run { run with state := .running, machine := machine } none
  | carried (stepped : Machine) (outcome : Outcome) (runs : run.state = .running)
      (step : run.machine.step = (stepped, .ok outcome)) :
      SlotUse run
        (follow
          { state := .running
            machine := stepped.takeTone.1
            report := run.report ++ instructionReport stepped.takeTone.2 (underflowsOf outcome) }
          outcome) none
  | failed (stepped : Machine) (fault : Fault) (runs : run.state = .running)
      (step : run.machine.step = (stepped, .error fault)) :
      SlotUse run { run with state := .halted, machine := stepped } (some fault)

theorem slotUse_of_slot? {run later : Run} {fault : Option Fault}
    (used : run.slot? = some (later, fault)) : SlotUse run later fault := by
  rcases run with ⟨state, machine, report⟩
  cases state with
  | halted => cases used
  | awaitingRefresh request => cases used
  | awaitingKey x =>
      obtain ⟨taken, found, same⟩ := Option.map_eq_some_iff.mp used
      cases same
      exact .took x taken rfl found
  | running =>
      have executed := Option.some.inj used
      simp only [execute] at executed
      cases stepAt : machine.step with
      | mk stepped result =>
          rw [stepAt] at executed
          cases result with
          | error cause =>
              cases executed
              exact .failed stepped cause rfl stepAt
          | ok outcome =>
              cases executed
              exact .carried stepped outcome rfl stepAt

theorem useSlots_succ (slots : Nat) (run : Run) :
    useSlots (slots + 1) run =
      match run.slot? with
      | none => (run, none)
      | some (later, some fault) => (later, some fault)
      | some (later, none) => useSlots slots later := by
  rcases run with ⟨state, machine, report⟩
  cases state with
  | halted => rfl
  | awaitingRefresh request => rfl
  | awaitingKey x =>
      simp only [useSlots, slot?]
      cases machine.takeKey? x <;> rfl
  | running =>
      simp only [useSlots, slot?]
      rcases execute ⟨.running, machine, report⟩ with ⟨later, fault⟩
      cases fault <;> rfl

theorem useSlots_of_blocked {run : Run} (blocked : run.slot? = none) (slots : Nat) :
    useSlots slots run = (run, none) := by
  cases slots with
  | zero => rfl
  | succ slots => rw [useSlots_succ, blocked]

theorem useSlots_keeps {holds : Run → Prop} {fails : Run → Fault → Prop}
    (kept : ∀ run later, holds run → SlotUse run later none → holds later)
    (failed : ∀ run later fault, holds run → SlotUse run later (some fault) → fails later fault)
    (slots : Nat) (run : Run) (before : holds run) :
    match useSlots slots run with
    | (later, none) => holds later
    | (later, some fault) => fails later fault := by
  induction slots generalizing run with
  | zero => exact before
  | succ slots ih =>
      rw [useSlots_succ]
      cases used : run.slot? with
      | none => exact before
      | some outcome =>
          rcases outcome with ⟨later, fault⟩
          have use := slotUse_of_slot? used
          cases fault with
          | none => exact ih later (kept run later before use)
          | some fault => exact failed run later fault before use

theorem halted_of_fault {slots : Nat} {run later : Run} {fault : Fault}
    (failed : useSlots slots run = (later, some fault)) : later.state = .halted := by
  have halts : ∀ run later fault, True → SlotUse run later (some fault) →
      later.state = .halted := by
    intro run later fault _ use
    cases use
    rfl
  have kept := useSlots_keeps (fun _ _ _ _ => trivial) halts slots run trivial
  rw [failed] at kept
  exact kept

/-! ### Two portions of slots -/

theorem useSlots_add (first second : Nat) (run : Run) :
    useSlots (first + second) run =
      match useSlots first run with
      | (later, some fault) => (later, some fault)
      | (later, none) => useSlots second later := by
  induction first generalizing run with
  | zero => rw [Nat.zero_add]; rfl
  | succ first ih =>
      rw [Nat.succ_add, useSlots_succ, useSlots_succ]
      cases used : run.slot? with
      | none => exact (useSlots_of_blocked used second).symm
      | some outcome =>
          rcases outcome with ⟨later, fault⟩
          cases fault with
          | none => exact ih later
          | some fault => rfl

/-! ### The report before the slots -/

def after (earlier : Report) (run : Run) : Run :=
  { run with report := earlier ++ run.report }

@[simp] theorem state_after (earlier : Report) (run : Run) :
    (run.after earlier).state = run.state := rfl

@[simp] theorem machine_after (earlier : Report) (run : Run) :
    (run.after earlier).machine = run.machine := rfl

theorem execute_after (earlier : Report) (run : Run) :
    (run.after earlier).execute = (run.execute.1.after earlier, run.execute.2) := by
  rcases run with ⟨state, machine, report⟩
  simp only [execute, after]
  rcases machine.step with ⟨stepped, fault | outcome⟩
  · rfl
  · cases outcome <;>
      simp only [follow, finish, Report.append_assoc]

theorem slot?_after (earlier : Report) (run : Run) :
    (run.after earlier).slot? =
      run.slot?.map fun outcome => (outcome.1.after earlier, outcome.2) := by
  have executed := execute_after earlier run
  rcases run with ⟨state, machine, report⟩
  cases state with
  | halted => rfl
  | awaitingRefresh request => rfl
  | awaitingKey x =>
      simp only [slot?, after, Option.map_map]
      rfl
  | running => exact congrArg some executed

theorem refresh_after (earlier : Report) (run : Run) :
    (run.after earlier).refresh = run.refresh.after earlier := by
  rcases run with ⟨state, machine, report⟩
  cases state <;> simp only [refresh, drawWaiting, after, Report.append_assoc]

/-! ### Images of runs -/

/-- A run with an image of its machine and an image of its report. -/
def image (onMachine : Machine → Machine) (onReport : Report → Report) (run : Run) : Run :=
  ⟨run.state, onMachine run.machine, onReport run.report⟩

/-- A slot and a refresh do to the image of a run what they do to the run. -/
structure Mirrored (onMachine : Machine → Machine) (onReport : Report → Report) : Prop where
  slot : ∀ run : Run, (run.image onMachine onReport).slot? =
    run.slot?.map fun used => (used.1.image onMachine onReport, used.2)
  refresh : ∀ run : Run,
    (run.image onMachine onReport).refresh = run.refresh.image onMachine onReport

theorem Mirrored.useSlots {onMachine : Machine → Machine} {onReport : Report → Report}
    (mirrored : Mirrored onMachine onReport) (slots : Nat) (run : Run) :
    Run.useSlots slots (run.image onMachine onReport) =
      ((Run.useSlots slots run).1.image onMachine onReport, (Run.useSlots slots run).2) := by
  induction slots generalizing run with
  | zero => rfl
  | succ slots ih =>
      rw [useSlots_succ, useSlots_succ, mirrored.slot]
      cases run.slot? with
      | none => rfl
      | some outcome =>
          rcases outcome with ⟨later, fault⟩
          cases fault with
          | none => exact ih later
          | some fault => rfl

theorem mirrored_after (earlier : Report) : Mirrored id (earlier ++ ·) :=
  ⟨slot?_after earlier, refresh_after earlier⟩

/-! ### The instructions carried out -/

/-- The machines that carry out an instruction in a number of slots, each as the instruction
finds it. A word that is no instruction is not carried out. -/
def steps : Nat → Run → List Machine
  | 0, _ => []
  | slots + 1, run =>
      match run.slot? with
      | none => []
      | some (_, some _) => []
      | some (later, none) =>
          if run.state = .running then run.machine :: steps slots later else steps slots later

theorem steps_of_blocked {run : Run} (blocked : run.slot? = none) (slots : Nat) :
    steps slots run = [] := by
  cases slots with
  | zero => rfl
  | succ slots => rw [steps, blocked]

theorem steps_add (first second : Nat) (run : Run) :
    steps (first + second) run =
      steps first run ++
        match useSlots first run with
        | (_, some _) => []
        | (later, none) => steps second later := by
  induction first generalizing run with
  | zero => rw [Nat.zero_add]; rfl
  | succ first ih =>
      rw [Nat.succ_add, steps, steps, useSlots_succ]
      cases used : run.slot? with
      | none => exact (steps_of_blocked used second).symm
      | some outcome =>
          rcases outcome with ⟨later, fault⟩
          cases fault with
          | some fault => rfl
          | none =>
              simp only [ih later]
              by_cases runs : run.state = .running
              · rw [if_pos runs, if_pos runs, List.cons_append]
              · rw [if_neg runs, if_neg runs]

theorem steps_after (earlier : Report) (slots : Nat) (run : Run) :
    steps slots (run.after earlier) = steps slots run := by
  induction slots generalizing run with
  | zero => rfl
  | succ slots ih =>
      rw [steps, steps, slot?_after]
      cases run.slot? with
      | none => rfl
      | some outcome =>
          rcases outcome with ⟨later, fault⟩
          cases fault with
          | some fault => rfl
          | none =>
              simp only [Option.map_some, ih later]
              rfl

theorem steps_unreported (slots : Nat) (run : Run) :
    steps slots run = steps slots ⟨run.state, run.machine, Report.none⟩ := by
  have unreported := steps_after run.report slots ⟨run.state, run.machine, Report.none⟩
  rw [after, Report.append_none] at unreported
  exact unreported

/-- What an outcome leads to is no instruction of its own and adds nothing to the counts. -/
theorem counts_follow (run : Run) (outcome : Outcome) :
    (run.follow outcome).report.instructions = run.report.instructions ∧
      (run.follow outcome).report.frames = run.report.frames ∧
      (run.follow outcome).report.underflows = run.report.underflows := by
  cases outcome with
  | exit => exact ⟨Counter.add_zero _, Counter.add_zero _, Counter.add_zero _⟩
  | proceed | underflow | awaitKey | awaitRefresh => exact ⟨rfl, rfl, rfl⟩

private theorem instructions_of_slot? {run later : Run} (used : run.slot? = some (later, none)) :
    later.report.instructions =
      run.report.instructions + .ofNat (if run.state = .running then 1 else 0) := by
  cases slotUse_of_slot? used with
  | took x machine waits found =>
      rw [waits, if_neg (by simp), Counter.add_zero]
  | carried stepped outcome runs step =>
      rw [runs, if_pos rfl]
      exact (counts_follow _ outcome).1

theorem instructions_useSlots (slots : Nat) (run : Run)
    (faultless : (useSlots slots run).2 = none) :
    (useSlots slots run).1.report.instructions =
      run.report.instructions + .ofNat (steps slots run).length := by
  induction slots generalizing run with
  | zero => exact (Counter.add_zero _).symm
  | succ slots ih =>
      rw [useSlots_succ] at faultless ⊢
      rw [steps]
      cases used : run.slot? with
      | none => exact (Counter.add_zero _).symm
      | some outcome =>
          rcases outcome with ⟨later, fault⟩
          cases fault with
          | some fault =>
              simp only [used] at faultless
              cases faultless
          | none =>
              simp only [used] at faultless
              simp only [ih later faultless, instructions_of_slot? used]
              rw [Counter.add_assoc, ← Counter.ofNat_add]
              by_cases runs : run.state = .running
              · rw [if_pos runs, if_pos runs, List.length_cons, Nat.add_comm]
              · rw [if_neg runs, if_neg runs, Nat.zero_add]

end Run
end Chip8
