import Chip8.Proofs.Footprint

set_option autoImplicit false

/-!
Calls and returns. A step puts its way back on top of the stack, takes the top away, or leaves the
stack alone (`stackStep`). So while a call is open the stack below its way back is never touched,
and the first step that brings the stack back to its depth is the return from that call.

Main statement: `calls_nest`.
-/

namespace Chip8
namespace Machine

/-- The machine after a number of steps. A step that finds no instruction changes nothing. -/
def afterSteps (machine : Machine) : Nat → Machine
  | 0 => machine
  | steps + 1 => (machine.afterSteps steps).step.1

/-- The next word is 2nnn. -/
def callsNext (machine : Machine) : Bool :=
  machine.nextWord.toNat / 0x1000 == 2

/-- The next word is 00EE and there is a way back. -/
def returnsNext (machine : Machine) : Bool :=
  machine.nextWord == 0x00EE && !machine.stack.isEmpty

/-- After so many steps the stack is for the first time as deep again as it was. -/
def FirstBack (machine : Machine) (steps : Nat) : Prop :=
  0 < steps ∧ (machine.afterSteps steps).stack.length = machine.stack.length ∧
    ∀ earlier < steps, 0 < earlier →
      (machine.afterSteps earlier).stack.length ≠ machine.stack.length

instance (machine : Machine) (steps : Nat) : Decidable (machine.FirstBack steps) :=
  inferInstanceAs (Decidable (_ ∧ _ ∧ ∀ earlier < steps, 0 < earlier → ¬_ = _))

/-! ### One step -/

/-- What a step does with the stack. -/
inductive StackStep (machine : Machine) : Prop where
  | called (calls : machine.callsNext = true) (noReturn : machine.returnsNext = false)
      (stack : machine.step.1.stack = (machine.pc + 2) :: machine.stack)
  | returned (back : Address) (rest : List Address) (noCall : machine.callsNext = false)
      (word : machine.nextWord = 0x00EE) (waiting : machine.stack = back :: rest)
      (pc : machine.step.1.pc = back) (stack : machine.step.1.stack = rest)
  | kept (noCall : machine.callsNext = false) (noReturn : machine.returnsNext = false)
      (stack : machine.step.1.stack = machine.stack)

variable {machine : Machine}

theorem instruction?_of_callsNext (calls : machine.callsNext = true) :
    machine.instruction? = some (.call (Address.ofNat machine.nextWord.toNat)) := by
  have family : machine.nextWord.toNat / 0x1000 = 2 := beq_iff_eq.mp calls
  refine machine.instruction?_eq_some_iff.mpr ⟨?_, rfl⟩
  rw [Instruction.code, addressCode, Address.val_ofNat]
  omega

theorem callsNext_of_instruction? {target : Address}
    (next : machine.instruction? = some (.call target)) : machine.callsNext = true := by
  have code := (machine.instruction?_eq_some_iff.mp next).1
  rw [Instruction.code, addressCode] at code
  have inside := target.isLt
  exact beq_iff_eq.mpr (by omega)

theorem instruction?_eq_ret_iff :
    machine.instruction? = some .ret ↔ machine.nextWord = 0x00EE := by
  rw [instruction?_eq_some_iff]
  constructor
  · intro found
    exact UInt16.toNat_inj.mp found.1.symm
  · intro word
    rw [word]
    exact ⟨rfl, rfl⟩

theorem step_call (calls : machine.callsNext = true) :
    machine.step.1.stack = (machine.pc + 2) :: machine.stack := by
  rw [step_of_instruction (instruction?_of_callsNext calls)]
  rfl

theorem step_return (word : machine.nextWord = 0x00EE) :
    machine.step = (machine.advance.returnFromCall.1, .ok machine.advance.returnFromCall.2) :=
  step_of_instruction (instruction?_eq_ret_iff.mpr word)

theorem returnFromCall_of_nil (machine : Machine) (empty : machine.stack = []) :
    machine.returnFromCall = ({ machine with pc := Memory.programStart }, .underflow) := by
  unfold returnFromCall
  split
  · rfl
  · rename_i waiting
    rw [empty] at waiting
    cases waiting

theorem returnFromCall_of_cons (machine : Machine) {back : Address} {rest : List Address}
    (waiting : machine.stack = back :: rest) :
    machine.returnFromCall = ({ machine with pc := back, stack := rest }, .proceed) := by
  unfold returnFromCall
  rw [waiting]

/-- A return without an open call starts the program again and changes nothing else. -/
theorem step_underflow (word : machine.nextWord = 0x00EE) (empty : machine.stack = []) :
    machine.step = ({ machine with pc := 0x200 }, .ok .underflow) := by
  rw [step_return word, returnFromCall_of_nil machine.advance empty]
  rfl

theorem step_stack_of_other (noCall : machine.callsNext = false)
    (noReturn : machine.nextWord ≠ 0x00EE) : machine.step.1.stack = machine.stack := by
  cases next : machine.instruction? with
  | none => rw [step_of_no_instruction next]
  | some instruction =>
      have untouched : Part.stack ∉ Part.pc :: instruction.changes := by
        cases instruction with
        | call target => rw [callsNext_of_instruction? next] at noCall; cases noCall
        | ret => exact absurd (instruction?_eq_ret_iff.mp next) noReturn
        | _ => simp [Instruction.changes]
      exact step_sameBut next .stack untouched

theorem stackStep (machine : Machine) : StackStep machine := by
  cases calls : machine.callsNext with
  | true =>
      have noReturn : machine.returnsNext = false := by
        have family : machine.nextWord.toNat / 0x1000 = 2 := beq_iff_eq.mp calls
        have other : machine.nextWord ≠ 0x00EE := by
          intro word
          rw [word] at family
          exact absurd family (by decide)
        rw [returnsNext, beq_eq_false_iff_ne.mpr other, Bool.false_and]
      exact .called calls noReturn (step_call calls)
  | false =>
      by_cases word : machine.nextWord = 0x00EE
      · cases waiting : machine.stack with
        | nil =>
            refine .kept calls ?_ ?_
            · rw [returnsNext, waiting]
              exact Bool.and_false _
            · rw [step_underflow word waiting]
        | cons back rest =>
            have stepped := step_return word
            rw [returnFromCall_of_cons machine.advance waiting] at stepped
            refine .returned back rest calls word waiting ?_ ?_ <;> rw [stepped]
      · refine .kept calls ?_ (step_stack_of_other calls word)
        rw [returnsNext, beq_eq_false_iff_ne.mpr word, Bool.false_and]

/-! ### Runs -/

/-- While the stack has not come back to its depth, what lay on it still lies there, under the way
back of the open call. -/
theorem stack_inside_call (calls : machine.callsNext = true) (steps : Nat)
    (deeper : ∀ earlier ≤ steps, (machine.afterSteps (earlier + 1)).stack.length ≠
      machine.stack.length) :
    ∃ inner, (machine.afterSteps (steps + 1)).stack =
      inner ++ (machine.pc + 2) :: machine.stack := by
  induction steps with
  | zero => exact ⟨[], step_call calls⟩
  | succ steps ih =>
      obtain ⟨inner, before⟩ := ih fun earlier within => deeper earlier (by omega)
      cases (machine.afterSteps (steps + 1)).stackStep with
      | called _ _ stack =>
          refine ⟨((machine.afterSteps (steps + 1)).pc + 2) :: inner, ?_⟩
          rw [afterSteps, stack, before, List.cons_append]
      | kept _ _ stack =>
          refine ⟨inner, ?_⟩
          rw [afterSteps, stack, before]
      | returned back rest _ _ waiting _ stack =>
          rw [before] at waiting
          cases inner with
          | nil =>
              have open' : machine.stack = rest := (List.cons.inj waiting).2
              have still := deeper (steps + 1) (Nat.le_refl _)
              rw [afterSteps, stack, ← open'] at still
              exact absurd rfl still
          | cons top inner =>
              refine ⟨inner, ?_⟩
              rw [afterSteps, stack]
              exact (List.cons.inj waiting).2.symm

/-- The first step that brings the stack back to its depth returns from the call. -/
theorem return_of_firstBack (calls : machine.callsNext = true) {steps : Nat}
    (back : machine.FirstBack steps) :
    (machine.afterSteps (steps - 1)).nextWord = 0x00EE ∧
      (machine.afterSteps steps).pc = machine.pc + 2 ∧
      (machine.afterSteps steps).stack = machine.stack := by
  obtain ⟨positive, same, first⟩ := back
  obtain ⟨past, rfl⟩ : ∃ past, steps = past + 1 := ⟨steps - 1, by omega⟩
  cases past with
  | zero =>
      rw [afterSteps, afterSteps, step_call calls, List.length_cons] at same
      omega
  | succ past =>
      obtain ⟨inner, before⟩ := stack_inside_call calls past fun earlier within =>
        first (earlier + 1) (by omega) (Nat.succ_pos _)
      rw [Nat.add_sub_cancel]
      cases (machine.afterSteps (past + 1)).stackStep with
      | called _ _ stack =>
          rw [afterSteps, stack, before] at same
          simp only [List.length_cons, List.length_append] at same
          omega
      | kept _ _ stack =>
          rw [afterSteps, stack, before] at same
          simp only [List.length_cons, List.length_append] at same
          omega
      | returned target rest _ word waiting pc stack =>
          rw [before] at waiting
          cases inner with
          | nil =>
              obtain ⟨top, rfl⟩ := List.cons.inj waiting
              exact ⟨word, by rw [afterSteps, pc, ← top], by rw [afterSteps, stack]⟩
          | cons top inner =>
              rw [List.cons_append] at waiting
              have length := congrArg List.length (List.cons.inj waiting).2
              rw [afterSteps, stack] at same
              rw [List.length_append, List.length_cons] at length
              omega

theorem countP_range_succ (happens : Nat → Bool) (count : Nat) :
    (List.range (count + 1)).countP happens =
      (List.range count).countP happens + (happens count).toNat := by
  rw [List.range_succ, List.countP_append, List.countP_singleton]
  cases happens count <;> rfl

/-- Calls add to the depth and returns take from it, and nothing else moves it. -/
theorem depth_add_returns (machine : Machine) (steps : Nat) :
    (machine.afterSteps steps).stack.length +
        (List.range steps).countP (fun step => (machine.afterSteps step).returnsNext) =
      machine.stack.length +
        (List.range steps).countP (fun step => (machine.afterSteps step).callsNext) := by
  induction steps with
  | zero => rfl
  | succ steps ih =>
      rw [countP_range_succ, countP_range_succ, afterSteps]
      cases (machine.afterSteps steps).stackStep with
      | called calls noReturn stack =>
          rw [calls, noReturn, stack, List.length_cons]
          simp only [Bool.toNat_true, Bool.toNat_false]
          omega
      | kept noCall noReturn stack =>
          rw [noCall, noReturn, stack]
          exact ih
      | returned back rest noCall word waiting _ stack =>
          have returns : (machine.afterSteps steps).returnsNext = true := by
            rw [returnsNext, word, waiting]
            rfl
          rw [noCall, returns, stack]
          rw [waiting, List.length_cons] at ih
          simp only [Bool.toNat_true, Bool.toNat_false]
          omega

theorem stack_load (machine : Machine) (source : ProgramSource) :
    (machine.load source).1.stack = machine.stack :=
  machine.load_sameBut source .stack (by decide)

/-- Calls and returns nest exactly. When the stack is for the first time as deep again as before a
call, the last step was the return from that call: the program goes on behind the call, and the
stack is what it was. Counted from a fresh machine the depth is the number of calls less the
number of returns that found a way back. A return that finds none starts the program again and
changes nothing else. -/
theorem calls_nest :
    (∀ (machine : Machine) (steps : Nat), machine.callsNext = true → machine.FirstBack steps →
      (machine.afterSteps (steps - 1)).nextWord = 0x00EE ∧
        (machine.afterSteps steps).pc.val = (machine.pc.val + 2) % 4096 ∧
        (machine.afterSteps steps).stack = machine.stack) ∧
    (∀ (profile : Profile) (filter : Filter) (tape : Tape) (source : ProgramSource) (steps : Nat),
      let fresh := ((Machine.ofProfile profile filter tape).load source).1
      (fresh.afterSteps steps).stack.length +
          (List.range steps).countP (fun step => (fresh.afterSteps step).returnsNext) =
        (List.range steps).countP (fun step => (fresh.afterSteps step).callsNext)) ∧
    ∀ machine : Machine, machine.nextWord = 0x00EE → machine.stack = [] →
      machine.step = ({ machine with pc := 0x200 }, .ok .underflow) := by
  refine ⟨?_, ?_, ?_⟩
  · intro machine steps calls back
    obtain ⟨word, pc, stack⟩ := return_of_firstBack calls back
    refine ⟨word, ?_, stack⟩
    rw [pc]
    exact Fin.val_add machine.pc 2
  · intro profile filter tape source steps
    have counted := depth_add_returns ((ofProfile profile filter tape).load source).1 steps
    rw [stack_load] at counted
    exact counted.trans (Nat.zero_add _)
  · intro machine word empty
    exact step_underflow word empty

/-- A call of 206, which calls 20A. Both return, and then the word behind the first call is a
return too many. -/
def twoCalls : Machine :=
  ((ofProfile (Profile.ofPlatform "calls" .modern) .none ⟨fun _ => 0, 0⟩).load
    ⟨[0x22, 0x06, 0x00, 0xEE, 0x00, 0x00, 0x22, 0x0A, 0x00, 0xEE, 0x00, 0xEE], none⟩).1

theorem calls_nest_twoCalls :
    (twoCalls.callsNext = true ∧ twoCalls.FirstBack 4 ∧
      (twoCalls.afterSteps 4).nextWord = 0x00EE ∧ (twoCalls.afterSteps 4).stack = []) ∧
    (twoCalls.afterSteps 4).pc.val = (twoCalls.pc.val + 2) % 4096 ∧
    (twoCalls.afterSteps 4).stack = twoCalls.stack ∧
    (twoCalls.afterSteps 4).step =
      ({ twoCalls.afterSteps 4 with pc := 0x200 }, .ok .underflow) := by
  have run : twoCalls.callsNext = true ∧ twoCalls.FirstBack 4 ∧
      (twoCalls.afterSteps 4).nextWord = 0x00EE ∧ (twoCalls.afterSteps 4).stack = [] := by
    decide +kernel
  obtain ⟨calls, back, word, empty⟩ := run
  obtain ⟨_, pc, stack⟩ := calls_nest.1 twoCalls 4 calls back
  exact ⟨⟨calls, back, word, empty⟩, pc, stack, calls_nest.2.2 _ word empty⟩

end Machine
end Chip8
