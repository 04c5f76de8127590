import Chip8.Instruction.Code
import Chip8.Machine.Execute

set_option autoImplicit false

/-!
What an instruction can change. `Instruction.changes` lists, for each instruction, the parts of
the machine that it may leave different; the program counter, which every instruction moves past
itself, is listed only for those that move it once more.

Main statement: the other parts stay as they are (`step_sameIn`), and a step reads nothing but the
word at the program counter to pick its instruction (`step_of_instruction`).
-/

namespace Chip8

/-- The parts of a machine. -/
inductive Part where
  | memory
  | screen
  | timers
  | keypad
  | platform
  | dialect
  | registers
  | index
  | pc
  | stack
  | flags
  | tone
  | tape
  deriving DecidableEq

/-- The parts in which a machine may differ after an instruction. -/
def Instruction.changes : Instruction → List Part
  | .clear | .tallScreen | .scrollDown _ | .scrollRight | .scrollLeft | .lowScreen
  | .highScreen => [.screen]
  | .ret | .call _ => [.pc, .stack]
  | .jump _ | .jumpIndexed _ | .skip _ => [.pc]
  | .exit | .awaitKey _ => []
  | .setByte _ _ | .addByte _ _ | .combine _ _ _ | .readDelay _ | .restoreFlags _ => [.registers]
  | .random _ _ => [.registers, .tape]
  | .setIndex _ | .smallDigit _ | .bigDigit _ => [.index]
  | .addIndex _ | .fetch _ => [.registers, .index]
  | .draw _ _ _ => [.screen, .registers]
  | .setDelay _ => [.timers]
  | .setSound _ => [.timers, .tone]
  | .decimal _ => [.memory]
  | .store _ => [.memory, .index]
  | .saveFlags _ => [.flags]

namespace Machine

def SameIn (left right : Machine) : Part → Prop
  | .memory => left.memory = right.memory
  | .screen => left.screen = right.screen
  | .timers => left.timers = right.timers
  | .keypad => left.keypad = right.keypad
  | .platform => left.platform = right.platform
  | .dialect => left.dialect = right.dialect
  | .registers => left.registers = right.registers
  | .index => left.index = right.index
  | .pc => left.pc = right.pc
  | .stack => left.stack = right.stack
  | .flags => left.flags = right.flags
  | .tone => left.tone = right.tone
  | .tape => left.tape = right.tape

theorem SameIn.trans {first second third : Machine} {part : Part}
    (left : first.SameIn second part) (right : second.SameIn third part) :
    first.SameIn third part := by
  cases part <;> exact Eq.trans left right

theorem SameIn.symm {left right : Machine} {part : Part} (same : left.SameIn right part) :
    right.SameIn left part := by
  cases part <;> exact Eq.symm same

/-- Two machines differ at most in some parts. -/
def SameBut (parts : List Part) (left right : Machine) : Prop :=
  ∀ part, part ∉ parts → left.SameIn right part

theorem SameBut.mono {parts more : List Part} {left right : Machine}
    (same : SameBut parts left right) (within : parts ⊆ more) : SameBut more left right :=
  fun part untouched => same part fun listed => untouched (within listed)

/-- A machine with one part taken over from another one. -/
def takeOver (machine source : Machine) : Part → Machine
  | .memory => { machine with memory := source.memory }
  | .screen => { machine with screen := source.screen }
  | .timers => { machine with timers := source.timers }
  | .keypad => { machine with keypad := source.keypad }
  | .platform => { machine with platform := source.platform }
  | .dialect => { machine with dialect := source.dialect }
  | .registers => { machine with registers := source.registers }
  | .index => { machine with index := source.index }
  | .pc => { machine with pc := source.pc }
  | .stack => { machine with stack := source.stack }
  | .flags => { machine with flags := source.flags }
  | .tone => { machine with tone := source.tone }
  | .tape => { machine with tape := source.tape }

private theorem sameIn_of_takeOver {machine source : Machine} {taken part : Part}
    (apart : part ≠ taken) (same : (machine.takeOver source taken).SameIn source part) :
    machine.SameIn source part := by
  cases taken <;> cases part <;> first | exact same | exact absurd rfl apart

theorem sameBut_of_takeOver {parts : List Part} {left right : Machine}
    (same : parts.foldl (fun machine part => machine.takeOver right part) left = right) :
    SameBut parts left right := by
  intro part untouched
  induction parts generalizing left with
  | nil =>
      rw [List.foldl_nil] at same
      rw [same]
      cases part <;> rfl
  | cons taken rest ih =>
      rw [List.mem_cons, not_or] at untouched
      exact sameIn_of_takeOver untouched.1 (ih same untouched.2)

variable (machine : Machine)

/-! ### The pieces of instructions -/

theorem combine_eq (operation : Operation) (x y : Register) :
    machine.combine operation x y =
      { machine with registers := (machine.combine operation x y).registers } := by
  unfold combine
  rcases operation.apply machine.dialect (machine.register x) (machine.register y) with
    ⟨result, none | flag⟩ <;> rfl

theorem moveIndex_eq (x : Register) :
    machine.moveIndex x = { machine with index := (machine.moveIndex x).index } := by
  unfold moveIndex
  split <;> rfl

theorem addIndex_eq (x : Register) :
    machine.addIndex x =
      { machine with
        registers := (machine.addIndex x).registers
        index := (machine.addIndex x).index } := by
  by_cases tells : machine.dialect.indexSetsFlag = true
  · simp only [addIndex, tells, if_true]
    rfl
  · simp only [addIndex, tells]
    rfl

theorem drawOrWait_eq (request : DrawRequest) :
    (machine.drawOrWait request).1 =
      { machine with
        screen := (machine.drawOrWait request).1.screen
        registers := (machine.drawOrWait request).1.registers } := by
  unfold drawOrWait
  split <;> rfl

theorem returnFromCall_eq :
    machine.returnFromCall.1 =
      { machine with
        pc := machine.returnFromCall.1.pc
        stack := machine.returnFromCall.1.stack } := by
  unfold returnFromCall
  split <;> rfl

/-! ### Instructions and steps -/

private theorem sameBut_withScreen (screen : Screen) :
    SameBut [.screen] { machine with screen := screen } machine :=
  sameBut_of_takeOver rfl

/-- The parts that an instruction does not list stay as they are. -/
theorem perform_sameBut (instruction : Instruction) :
    SameBut instruction.changes (machine.perform instruction).1 machine := by
  cases instruction with
  | clear | tallScreen | scrollDown | scrollRight | scrollLeft | lowScreen | highScreen =>
      rw [perform]
      exact sameBut_withScreen machine _
  | ret =>
      rw [perform, returnFromCall_eq]
      exact sameBut_of_takeOver rfl
  | skip test =>
      rw [perform]
      split <;> exact sameBut_of_takeOver rfl
  | combine operation x y =>
      rw [perform, combine_eq]
      exact sameBut_of_takeOver rfl
  | draw x y rows =>
      rw [perform, drawOrWait_eq]
      exact sameBut_of_takeOver rfl
  | addIndex x =>
      rw [perform, addIndex_eq]
      exact sameBut_of_takeOver rfl
  | store x =>
      rw [perform, storeRegisters, moveIndex_eq]
      exact sameBut_of_takeOver rfl
  | fetch x =>
      rw [perform, fetchRegisters, moveIndex_eq]
      exact sameBut_of_takeOver rfl
  | exit | jump | call | setByte | addByte | setIndex | jumpIndexed | random | readDelay | awaitKey
  | setDelay | setSound | smallDigit | bigDigit | decimal | saveFlags | restoreFlags =>
      apply sameBut_of_takeOver
      simp only [perform, randomize, setRegister, setSound, saveFlags, restoreFlags,
        Instruction.changes, List.foldl_cons, List.foldl_nil, takeOver]

/-- The instruction that the next step carries out, if the word at the program counter is one. -/
def instruction? : Option Instruction :=
  Instruction.decode? machine.platform machine.nextWord

theorem instruction?_eq_some_iff {instruction : Instruction} :
    machine.instruction? = some instruction ↔
      instruction.code = machine.nextWord.toNat ∧ instruction.isOn machine.platform = true := by
  rw [instruction?, Instruction.decode?, Option.filter_eq_some_iff, Instruction.ofCode?_eq_some_iff]

variable {machine}

theorem step_of_instruction {instruction : Instruction}
    (next : machine.instruction? = some instruction) :
    machine.step = ((machine.advance.perform instruction).1,
      .ok (machine.advance.perform instruction).2) := by
  unfold instruction? at next
  rw [step, next]

theorem step_of_no_instruction (next : machine.instruction? = none) :
    machine.step =
      (machine, .error (.unknownOpcode machine.pc.val machine.nextWord)) := by
  unfold instruction? at next
  rw [step, next]

/-- A step changes the program counter and what its instruction lists. -/
theorem step_sameBut {instruction : Instruction} (next : machine.instruction? = some instruction) :
    SameBut (.pc :: instruction.changes) machine.step.1 machine := by
  rw [step_of_instruction next]
  intro part untouched
  rw [List.mem_cons, not_or] at untouched
  have performed := machine.advance.perform_sameBut instruction part untouched.2
  cases part <;> first | exact performed | exact absurd rfl untouched.1

/-- A part that no instruction lists stays as it is in every step. -/
theorem step_sameIn (machine : Machine) {part : Part} (apart : part ≠ .pc)
    (unlisted : ∀ instruction : Instruction, part ∉ instruction.changes) :
    machine.step.1.SameIn machine part := by
  cases next : machine.instruction? with
  | none =>
      rw [step_of_no_instruction next]
      cases part <;> rfl
  | some instruction =>
      apply step_sameBut next part
      rw [List.mem_cons, not_or]
      exact ⟨apart, unlisted instruction⟩

theorem perform_of_step {machine stepped : Machine} {outcome : Outcome}
    (step : machine.step = (stepped, .ok outcome)) :
    ∃ instruction, machine.instruction? = some instruction ∧
      machine.advance.perform instruction = (stepped, outcome) := by
  cases next : machine.instruction? with
  | none =>
      rw [step_of_no_instruction next] at step
      cases step
  | some instruction =>
      rw [step_of_instruction next] at step
      obtain ⟨performed, same⟩ := Prod.mk.inj step
      exact ⟨instruction, rfl, Prod.ext performed (Except.ok.inj same)⟩

/-! ### Loading -/

/-- What is done to start a loaded program changes the screen and the program counter. -/
theorem prepared_sameBut (machine : Machine) : SameBut [.screen, .pc] machine.prepared machine := by
  unfold prepared
  split <;> exact sameBut_of_takeOver rfl

theorem load_sameBut (machine : Machine) (source : ProgramSource) :
    SameBut [.memory, .screen, .pc] (machine.load source).1 machine := by
  unfold load
  rcases machine.memory.load source with ⟨memory, fault | length⟩
  · exact sameBut_of_takeOver rfl
  · intro part untouched
    rw [List.mem_cons, not_or] at untouched
    have kept : SameIn { machine with memory := memory } machine part := by
      cases part <;> first | rfl | exact absurd rfl untouched.1
    exact (prepared_sameBut _ part untouched.2).trans kept

theorem result_load (machine : Machine) (source : ProgramSource) :
    (machine.load source).2 = (machine.memory.load source).2 := by
  unfold load
  rcases machine.memory.load source with ⟨memory, fault | length⟩ <;> rfl

end Machine
end Chip8
