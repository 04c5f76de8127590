import Chip8.Proofs.Course

set_option autoImplicit false

/-!
Waits for a key. While no key is down, refreshes go on but nothing is carried out (`AwaitsKey`);
the first slot that finds a key down ends the wait with the lowest one, and releases it. So each
wait that ends with a key uses up a press of this key (`Unfolds.takes_le`).

Main statement: `keys_awaited`, for every run that starts with a program.
-/

namespace Chip8

namespace Keypad

theorem lowest?_eq_none_iff (keypad : Keypad) :
    keypad.lowest? = none ↔ ∀ key, keypad.isDown key = false := by
  rw [lowest?, List.find?_eq_none]
  constructor
  · intro up key
    exact Bool.eq_false_iff.mpr (up key (List.mem_finRange key))
  · intro up key _
    exact Bool.eq_false_iff.mp (up key)

theorem lowest?_eq_some_iff (keypad : Keypad) (key : Key) :
    keypad.lowest? = some key ↔
      keypad.isDown key = true ∧ ∀ lower < key, keypad.isDown lower = false := by
  rw [lowest?, List.find?_eq_some_iff_getElem]
  constructor
  · rintro ⟨down, place, inside, same, before⟩
    refine ⟨down, ?_⟩
    intro lower below
    rw [List.getElem_finRange] at same
    have earlier : lower.val < place := by
      rw [← same] at below
      exact below
    have up := before lower.val earlier
    rw [List.getElem_finRange] at up
    exact Bool.not_eq_true' _ |>.mp up
  · rintro ⟨down, lowest⟩
    refine ⟨down, key.val, ?_, ?_, ?_⟩
    · rw [List.length_finRange]
      exact key.isLt
    · rw [List.getElem_finRange]
      rfl
    · intro place before
      rw [List.getElem_finRange]
      exact Bool.not_eq_true' _ |>.mpr (lowest _ before)

end Keypad

namespace Machine

/-- The machine with its timers and its glow after a number of refreshes. -/
def refreshed (machine : Machine) : Nat → Machine
  | 0 => machine
  | refreshes + 1 =>
      { machine.refreshed refreshes with
        timers := (machine.refreshed refreshes).timers.decrement.1
        screen := (machine.refreshed refreshes).screen.age }

/-- Refreshes leave all that a program computes alone. -/
theorem refreshed_sameBut (machine : Machine) (refreshes : Nat) :
    SameBut [.timers, .screen] (machine.refreshed refreshes) machine := by
  induction refreshes with
  | zero =>
      intro part _
      cases part <;> rfl
  | succ refreshes ih =>
      intro part apart
      have before := ih part apart
      cases part <;> first | exact before | exact absurd (by decide) apart

end Machine

namespace Run

/-- The run waits for a key, and since the wait was issued nothing has changed but for keys and a
number of refreshes. -/
structure AwaitsKey (run : Run) (issued : Machine) (x : Register) (refreshes : Nat) : Prop where
  state : run.state = .awaitingKey x
  machine : run.machine =
    { issued.advance.refreshed refreshes with keypad := run.machine.keypad, tone := none }

variable {run : Run} {issued : Machine} {x : Register} {refreshes : Nat}

theorem slot?_of_awaitKey (runs : run.state = .running)
    (waits : run.machine.instruction? = some (.awaitKey x)) :
    run.slot? =
      some (⟨.awaitingKey x, { run.machine.advance with tone := none },
        run.report ++ instructionReport run.machine.tone 0⟩, none) := by
  rcases run with ⟨state, machine, report⟩
  cases runs
  simp only [slot?, execute, Machine.step_of_instruction waits]
  rfl

end Run

namespace Moment

/-- A slot at which no key is down, a refresh, or a key that changes. -/
def FindsNoKey : Moment → Prop
  | .slot run => ∀ key, run.machine.keypad.isDown key = false
  | _ => True

theorem findsNoKey {moment : Moment} (up : moment.found.machine.keypad.lowest? = none) :
    moment.FindsNoKey := by
  cases moment with
  | slot run => exact (Keypad.lowest?_eq_none_iff _).mp up
  | _ => trivial

theorem awaitsKey_after {moment : Moment} {issued : Machine} {x : Register} {refreshes : Nat}
    (awaits : moment.found.AwaitsKey issued x refreshes) (noKey : moment.FindsNoKey) :
    moment.after.AwaitsKey issued x (refreshes + moment.isRefresh.toNat) := by
  obtain ⟨state, machine⟩ := awaits
  cases moment with
  | slot run =>
      have waits : run.state = .awaitingKey x := state
      rw [after_of_awaitingKey waits, (Keypad.lowest?_eq_none_iff _).mpr noKey]
      exact ⟨state, machine⟩
  | refresh run =>
      rcases run with ⟨waiting, found, report⟩
      cases state
      refine ⟨rfl, ?_⟩
      rw [after]
      change found = _ at machine
      rw [machine]
      rfl
  | press key run =>
      refine ⟨state, ?_⟩
      rw [after]
      dsimp only
      rw [show run.machine = _ from machine]
      rfl
  | release key run =>
      refine ⟨state, ?_⟩
      rw [after]
      dsimp only
      rw [show run.machine = _ from machine]
      rfl

end Moment

/-! ### The whole wait -/

/-- Without a key the wait goes on, and only refreshes count. -/
theorem Unfolds.awaitsKey {run last : Run} {moments : List Moment} {issued : Machine}
    {x : Register} {refreshes : Nat} (unfolds : Unfolds run moments last)
    (awaits : run.AwaitsKey issued x refreshes) (noKey : ∀ moment ∈ moments, moment.FindsNoKey) :
    last.AwaitsKey issued x (refreshes + moments.countP Moment.isRefresh) := by
  induction unfolds generalizing refreshes with
  | nil run => exact awaits
  | cons run moment rest last found follows ih =>
      rw [← found] at awaits
      have behind := Moment.awaitsKey_after awaits (noKey moment List.mem_cons_self)
      have atEnd := ih behind (fun later member => noKey later (List.mem_cons_of_mem _ member))
      rw [Moment.countP_cons, ← Nat.add_assoc]
      exact atEnd

theorem Moment.running_after {moment : Moment} (noSlot : moment.isSlot = false)
    (runs : moment.found.state = .running) :
    moment.after.state = .running ∧ moment.after.machine.pc = moment.found.machine.pc ∧
      moment.after.machine.registers = moment.found.machine.registers := by
  cases moment with
  | slot run => cases noSlot
  | press key run => exact ⟨runs, rfl, rfl⟩
  | release key run => exact ⟨runs, rfl, rfl⟩
  | refresh run =>
      rcases run with ⟨state, machine, report⟩
      cases runs
      exact ⟨rfl, rfl, rfl⟩

/-- A machine that runs is found running, at the same place, by the next slot. -/
theorem Unfolds.running {run last : Run} {quiet : List Moment} (unfolds : Unfolds run quiet last)
    (noSlot : ∀ moment ∈ quiet, moment.isSlot = false) (runs : run.state = .running) :
    last.state = .running ∧ last.machine.pc = run.machine.pc ∧
      last.machine.registers = run.machine.registers := by
  refine (unfolds.keeps (fun later => later.state = .running ∧
    later.machine.pc = run.machine.pc ∧ later.machine.registers = run.machine.registers) ?_
    ⟨runs, rfl, rfl⟩).2
  rintro moment member ⟨running, pc, registers⟩
  obtain ⟨runningAfter, pcAfter, registersAfter⟩ :=
    Moment.running_after (noSlot moment member) running
  exact ⟨runningAfter, pcAfter.trans pc, registersAfter.trans registers⟩

/-- A wait for a key that was issued at a slot, moments that find no key, and what follows. -/
structure KeyAwaited (issue : Run) (x : Register) (between later : List Moment)
    (last : Run) : Prop where
  /-- Every moment finds the machine as it was left, but for keys and the refreshes so far. -/
  waits : ∀ past moment future, between = past ++ moment :: future →
    moment.found.AwaitsKey issue.machine x (past.countP Moment.isRefresh)
  waitsOn : later = [] → last.AwaitsKey issue.machine x (between.countP Moment.isRefresh)
  /-- The lowest key that is down goes into the register and is released, and nothing else changes;
  the next slot finds the machine behind the instruction. -/
  ends : ∀ wake rest key, later = .slot wake :: rest →
    wake.machine.keypad.isDown key = true →
    (∀ lower < key, wake.machine.keypad.isDown lower = false) →
    wake.AwaitsKey issue.machine x (between.countP Moment.isRefresh) ∧
    (Moment.slot wake).after =
      ⟨.running,
        { wake.machine.setRegister x (UInt8.ofNat key.val) with
          keypad := wake.machine.keypad.release key },
        Report.none⟩ ∧
    (Moment.slot wake).after.machine.register x = UInt8.ofNat key.val ∧
    (∀ other, other ≠ x →
      (Moment.slot wake).after.machine.register other = issue.machine.register other) ∧
    Unfolds (Moment.slot wake).after rest last ∧
    ∀ quiet next more, rest = quiet ++ .slot next :: more →
      (∀ moment ∈ quiet, moment.isSlot = false) →
      next.state = .running ∧ next.machine.pc = issue.machine.pc + 2 ∧
        next.machine.registers = (wake.machine.setRegister x (UInt8.ofNat key.val)).registers

theorem Run.AwaitsKey.pc {run : Run} {issued : Machine} {x : Register} {refreshes : Nat}
    (awaits : run.AwaitsKey issued x refreshes) : run.machine.pc = issued.pc + 2 := by
  have kept : (issued.advance.refreshed refreshes).pc = issued.advance.pc :=
    issued.advance.refreshed_sameBut refreshes .pc (by decide)
  rw [awaits.machine]
  exact kept

theorem Run.AwaitsKey.registers {run : Run} {issued : Machine} {x : Register} {refreshes : Nat}
    (awaits : run.AwaitsKey issued x refreshes) : run.machine.registers = issued.registers := by
  have kept : (issued.advance.refreshed refreshes).registers = issued.advance.registers :=
    issued.advance.refreshed_sameBut refreshes .registers (by decide)
  rw [awaits.machine]
  exact kept

theorem keyAwaited {run last issue : Run} {earlier between later : List Moment} {x : Register}
    (unfolds : Unfolds run (earlier ++ .slot issue :: (between ++ later)) last)
    (runs : issue.state = .running) (waits : issue.machine.instruction? = some (.awaitKey x))
    (noKey : ∀ moment ∈ between, moment.FindsNoKey) : KeyAwaited issue x between later last := by
  have issued : (Moment.slot issue).after.AwaitsKey issue.machine x 0 := by
    rw [Moment.after, Run.slot?_of_awaitKey runs waits]
    exact ⟨rfl, rfl⟩
  have follows := unfolds.cut.2
  obtain ⟨behind, first, second⟩ := follows.split
  refine ⟨?_, ?_, ?_⟩
  · intro past moment future cut
    subst cut
    have awaits := first.cut.1.awaitsKey issued
      (fun other member => noKey other (List.mem_append_left _ member))
    rw [Nat.zero_add] at awaits
    exact awaits
  · intro empty
    subst empty
    have awaits := first.awaitsKey issued noKey
    rw [Nat.zero_add, second.eq_of_nil] at awaits
    exact awaits
  · intro wake rest key starts down lowest
    subst starts
    obtain ⟨upToWake, fromWake⟩ := follows.cut
    have awaits : wake.AwaitsKey issue.machine x (0 + between.countP Moment.isRefresh) :=
      upToWake.awaitsKey issued noKey
    rw [Nat.zero_add] at awaits
    have woken := Moment.after_of_awaitingKey awaits.state
    rw [(Keypad.lowest?_eq_some_iff _ key).mpr ⟨down, lowest⟩] at woken
    refine ⟨awaits, woken, ?_, ?_, fromWake, ?_⟩
    · rw [woken]
      exact (wake.machine.register_setRegister x x (UInt8.ofNat key.val)).trans (if_pos rfl)
    · intro other apart
      have untouched := wake.machine.register_setRegister_other (UInt8.ofNat key.val) apart
      rw [woken]
      refine untouched.trans ?_
      rw [Machine.register, awaits.registers]
      rfl
    intro quiet next more cut noSlot
    subst cut
    have resumed := fromWake.cut.1.running noSlot (by rw [woken])
    rw [woken] at resumed
    rw [← awaits.pc]
    exact resumed

/-! ### Presses and waits -/

/-- The event presses a key. -/
def Event.presses (key : Key) : Event → Bool
  | .press byte => Key.ofByte? byte = some key
  | _ => false

namespace Moment

def presses (key : Key) : Moment → Bool
  | .press byte _ => Key.ofByte? byte = some key
  | _ => false

/-- A slot that ends a wait with a key. -/
def takes (key : Key) : Moment → Bool
  | .slot run =>
      match run.state with
      | .awaitingKey _ => run.machine.keypad.lowest? = some key
      | _ => false
  | _ => false

theorem isDown_after_press (key : Key) (byte : UInt8) (run : Run) :
    (Moment.press byte run).after.machine.keypad.isDown key =
      ((Moment.press byte run).presses key || run.machine.keypad.isDown key) := by
  change (run.machine.keypad.pressByte byte).isDown key = _
  rw [Keypad.pressByte, presses]
  cases Key.ofByte? byte with
  | none => rfl
  | some pressed =>
      dsimp only
      rw [Keypad.isDown_press]
      simp only [Option.some.injEq]

theorem isDown_after_release (key : Key) (byte : UInt8) (run : Run)
    (down : (Moment.release byte run).after.machine.keypad.isDown key = true) :
    run.machine.keypad.isDown key = true := by
  change (run.machine.keypad.releaseByte byte).isDown key = true at down
  rw [Keypad.releaseByte] at down
  cases named : Key.ofByte? byte with
  | none =>
      rw [named] at down
      exact down
  | some released =>
      rw [named] at down
      dsimp only at down
      rw [Keypad.isDown_release, Bool.and_eq_true] at down
      exact down.2

theorem keypad_after_step {run : Run} (runs : run.state = .running) :
    (Moment.slot run).after.machine.keypad = run.machine.keypad := by
  have unlisted (instruction : Instruction) : Part.keypad ∉ instruction.changes := by
    cases instruction <;> simp [Instruction.changes]
  have isStep : (Moment.slot run).isStep = true := decide_eq_true runs
  have same : (Moment.slot run).after.machine.SameIn run.machine .keypad :=
    (sameIn_step_after isStep .keypad (by decide)).trans
      (run.machine.step_sameIn (by decide) unlisted)
  exact same

/-- A wait that ends with a key leaves the key up, and only a press puts it down again. -/
theorem takes_add_isDown_le (moment : Moment) (key : Key) :
    (moment.takes key).toNat + (moment.after.machine.keypad.isDown key).toNat ≤
      (moment.presses key).toNat + (moment.found.machine.keypad.isDown key).toNat := by
  cases moment with
  | press byte run =>
      rw [isDown_after_press]
      change 0 + _ ≤ _ + (run.machine.keypad.isDown key).toNat
      cases (Moment.press byte run).presses key <;>
        cases run.machine.keypad.isDown key <;> decide
  | release byte run =>
      change 0 + _ ≤ 0 + (run.machine.keypad.isDown key).toNat
      cases down : (Moment.release byte run).after.machine.keypad.isDown key with
      | false => exact Nat.zero_le _
      | true =>
          have before := isDown_after_release key byte run down
          exact Nat.le_of_eq (congrArg (fun bit => 0 + bit.toNat) before.symm)
  | refresh run =>
      have same : (Moment.refresh run).after.machine.keypad = run.machine.keypad := by
        rcases run with ⟨state, machine, report⟩
        cases state <;> rfl
      rw [same]
      exact Nat.le_refl _
  | slot run =>
      change _ ≤ 0 + (run.machine.keypad.isDown key).toNat
      cases state : run.state with
      | running =>
          rw [keypad_after_step state, takes, state]
          exact Nat.le_refl _
      | halted =>
          rw [after_of_blocked (Run.slot?_of_halted state), takes, state]
          exact Nat.le_refl _
      | awaitingRefresh request =>
          rw [after_of_blocked (Run.slot?_of_awaitingRefresh state), takes, state]
          exact Nat.le_refl _
      | awaitingKey x =>
          rw [after_of_awaitingKey state, takes, state]
          cases lowest : run.machine.keypad.lowest? with
          | none => exact Nat.le_refl _
          | some taken =>
              have down := ((Keypad.lowest?_eq_some_iff _ taken).mp lowest).1
              change _ + ((run.machine.keypad.release taken).isDown key).toNat ≤ _
              rw [Keypad.isDown_release]
              by_cases same : taken = key
              · subst same
                rw [down]
                simp
              · simp [same]

end Moment

/-- Every wait that ends with a key has a press of its own, or the key was down at the start. -/
theorem Unfolds.takes_le {run last : Run} {moments : List Moment}
    (unfolds : Unfolds run moments last) (key : Key) :
    moments.countP (Moment.takes key) + (last.machine.keypad.isDown key).toNat ≤
      moments.countP (Moment.presses key) + (run.machine.keypad.isDown key).toNat := by
  induction unfolds with
  | nil run => exact Nat.le_refl _
  | cons run moment rest last found follows ih =>
      have here := moment.takes_add_isDown_le key
      rw [found] at here
      rw [Moment.countP_cons, Moment.countP_cons]
      omega

namespace Course

theorem countP_presses (course : Course) (events : List Event) (key : Key) :
    (course.moments events).countP (Moment.presses key) = events.countP (Event.presses key) := by
  induction events generalizing course with
  | nil => rfl
  | cons event rest ih =>
      rw [moments, List.countP_append, ih, List.countP_cons, Nat.add_comm]
      congr 1
      cases event with
      | press byte => exact List.countP_singleton
      | release byte => rfl
      | elapse nanoseconds =>
          change (course.pacer.moments course.machine nanoseconds).countP _ = 0
          rw [List.countP_eq_zero]
          intro moment member
          cases moment with
          | press byte run =>
              rcases Pacer.isSlot_or_isRefresh_of_mem_moments _ _ _ _ member with no | no <;>
                cases no
          | _ => exact Bool.false_ne_true

end Course

theorem Machine.keypad_load (machine : Machine) (source : ProgramSource) :
    (machine.load source).1.keypad = machine.keypad :=
  machine.load_sameBut source .keypad (by decide)

/-! ### The waits of a whole run -/

theorem keys_awaited (rate : UInt32) (profile : Profile) (filter : Filter) (tape : Tape)
    (source : ProgramSource) (events : List Event) :
    let start := Course.boot rate profile filter tape source
    -- a wait goes on until a slot finds a key down
    (∀ earlier issue between later x,
      start.moments events = earlier ++ .slot issue :: (between ++ later) →
      issue.state = .running →
      issue.machine.instruction? = some (.awaitKey x) →
      (∀ moment ∈ between, moment.FindsNoKey) →
      KeyAwaited issue x between later (start.follow events).run) ∧
    -- a tick carries out instructions at slots of its own
    (∀ earlier nanoseconds later report, events = earlier ++ .elapse nanoseconds :: later →
      let before := start.follow earlier
      let ticked := before.pacer.tick before.machine nanoseconds
      let moments := before.pacer.moments before.machine nanoseconds
      ticked.result = .ok report →
        ticked.pacer.granted = before.pacer.granted + moments.countP Moment.isSlot ∧
        report.instructions = .ofNat (moments.countP Moment.isStep)) ∧
    -- no press ends two waits
    ∀ key, (start.moments events).countP (Moment.takes key) ≤ events.countP (Event.presses key) := by
  intro start
  have unfolds := start.unfolds events
  refine ⟨?_, ?_, ?_⟩
  · intro earlier issue between later x cut runs waits noKey
    rw [cut] at unfolds
    exact keyAwaited unfolds runs waits noKey
  · intro earlier nanoseconds later report cut before ticked moments finished
    have onTime : before.pacer.OnTime :=
      Course.onTime_follow (Course.onTime_boot rate profile filter tape source) earlier
    exact ⟨Pacer.granted_tick before.machine nanoseconds onTime, Pacer.instructions_tick finished⟩
  · intro key
    have taken := unfolds.takes_le key
    have idle : start.run.machine.keypad.isDown key = false := by
      change ((Machine.ofProfile profile filter tape).load source).1.keypad.isDown key = false
      rw [Machine.keypad_load]
      exact Keypad.isDown_idle key
    rw [idle, start.countP_presses] at taken
    exact Nat.le_trans (Nat.le_add_right _ _) taken

/-- A program that waits for a key and then counts. -/
def keyCourse : Course :=
  .boot 180 (Profile.ofPlatform "key" .modern) .none ⟨fun _ => 0, 0⟩
    ⟨[0xF5, 0x0A, 0x70, 0x01, 0x12, 0x02], none⟩

def keyEvents : List Event :=
  [.elapse 9000000, .press 4, .elapse 11000000]

private theorem keyFacts :
    (keyCourse.moments keyEvents).map
        (fun moment =>
          (moment.isSlot, moment.isRefresh, moment.found.machine.keypad.lowest?)) =
      [(true, false, none), (true, false, none), (false, false, none), (true, false, some 4),
        (false, true, none), (true, false, none)] ∧
    keyCourse.machine.instruction? = some (.awaitKey 5) := by
  decide +kernel

private theorem keyMoments : ∃ between wake rest,
    keyCourse.moments keyEvents =
      [] ++ .slot keyCourse.run :: (between ++ .slot wake :: rest) ∧
    (∀ moment ∈ between, moment.FindsNoKey) ∧ wake.machine.keypad.lowest? = some 4 := by
  have kinds := keyFacts.1
  have unfolds := keyCourse.unfolds keyEvents
  rcases listed : keyCourse.moments keyEvents with
    _ | ⟨first, _ | ⟨second, _ | ⟨third, _ | ⟨fourth, rest⟩⟩⟩⟩ <;>
    rw [listed] at kinds unfolds <;> simp at kinds
  obtain ⟨⟨isFirst, _⟩, ⟨_, _, secondUp⟩, ⟨_, _, thirdUp⟩, ⟨isFourth, _, lowest⟩, _⟩ := kinds
  cases unfolds with
  | cons _ _ _ _ found _ =>
      refine ⟨[second, third], fourth.found, rest, ?_, ?_, lowest⟩
      · rw [← found, ← Moment.eq_slot isFirst, ← Moment.eq_slot isFourth]
        rfl
      · intro moment member
        rcases List.mem_cons.mp member with same | last
        · rw [same]
          exact Moment.findsNoKey secondUp
        · rw [List.mem_singleton.mp last]
          exact Moment.findsNoKey thirdUp

theorem keys_awaited_four :
    ∃ between wake rest,
      keyCourse.moments keyEvents =
        [] ++ .slot keyCourse.run :: (between ++ .slot wake :: rest) ∧
      (∀ moment ∈ between, moment.FindsNoKey) ∧
      KeyAwaited keyCourse.run 5 between (.slot wake :: rest) (keyCourse.follow keyEvents).run ∧
      wake.machine.keypad.lowest? = some 4 ∧
      (Moment.slot wake).after.machine.register 5 = 4 ∧
      (∀ other, other ≠ 5 →
        (Moment.slot wake).after.machine.register other = keyCourse.machine.register other) ∧
      (keyCourse.moments keyEvents).countP (Moment.takes 4) ≤
        keyEvents.countP (Event.presses 4) := by
  obtain ⟨between, wake, rest, cut, noKey, lowest⟩ := keyMoments
  obtain ⟨awaited, _, taken⟩ := keys_awaited 180 (Profile.ofPlatform "key" .modern) .none
    ⟨fun _ => 0, 0⟩ ⟨[0xF5, 0x0A, 0x70, 0x01, 0x12, 0x02], none⟩ keyEvents
  have waited := awaited [] keyCourse.run between _ 5 cut rfl keyFacts.2 noKey
  obtain ⟨down, lower⟩ := (Keypad.lowest?_eq_some_iff _ 4).mp lowest
  obtain ⟨_, _, told, untold, _⟩ := waited.ends wake rest 4 rfl down lower
  exact ⟨between, wake, rest, cut, noKey, waited, lowest, told, untold, taken 4⟩

end Chip8
