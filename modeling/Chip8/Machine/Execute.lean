import Chip8.Instruction.Decode
import Chip8.Machine

set_option autoImplicit false

/-!
Carrying out instructions. `Machine.step` reads the word at the program counter, moves the
counter past it and performs the instruction; a word that is no instruction of the platform
is a fault and leaves the machine as it was. A step never waits: an instruction that has to
wait for a key or for the next refresh says so in its outcome.
-/

namespace Chip8

inductive Outcome where
  | proceed
  /-- Nothing more happens until a key is down, which then goes into a register. -/
  | awaitKey (x : Register)
  /-- Nothing more happens until the next refresh, which then draws the sprite. -/
  | awaitRefresh (request : DrawRequest)
  /-- A return found no open call; the program starts again. -/
  | underflow
  | exit
  deriving DecidableEq

/-- Two registers combined: the result for Vx, and what goes into VF if anything does. -/
def Operation.apply (dialect : Dialect) (vx vy : UInt8) : Operation → UInt8 × Option UInt8
  | .assign => (vy, none)
  | .or => (vx ||| vy, if dialect.logicClearsFlag then some 0 else none)
  | .and => (vx &&& vy, if dialect.logicClearsFlag then some 0 else none)
  | .xor => (vx ^^^ vy, if dialect.logicClearsFlag then some 0 else none)
  | .add => (vx + vy, some (decide (256 ≤ vx.toNat + vy.toNat)).toUInt8)
  | .subtract => (vx - vy, some (decide (vy ≤ vx)).toUInt8)
  | .subtractFrom => (vy - vx, some (decide (vx ≤ vy)).toUInt8)
  | .shiftRight =>
      let operand := if dialect.shiftReadsVy then vy else vx
      (operand >>> 1, some (operand &&& 1))
  | .shiftLeft =>
      let operand := if dialect.shiftReadsVy then vy else vx
      (operand <<< 1, some (operand >>> 7))

def decimalDigits (value : UInt8) : List UInt8 :=
  [value / 100, value / 10 % 10, value % 10]

namespace Machine

def nextWord (machine : Machine) : UInt16 :=
  machine.memory.word machine.pc

def advance (machine : Machine) : Machine :=
  { machine with pc := machine.pc + 2 }

def holds (machine : Machine) : Test → Bool
  | .isByte x byte => machine.register x == byte
  | .isNotByte x byte => machine.register x != byte
  | .isEqual x y => machine.register x == machine.register y
  | .isDifferent x y => machine.register x != machine.register y
  | .keyDown x => machine.keypad.isDown (Key.ofLowBits (machine.register x))
  | .keyUp x => !machine.keypad.isDown (Key.ofLowBits (machine.register x))

/-- Vx replaced by its combination with Vy; what goes into VF goes there last. -/
def combine (machine : Machine) (operation : Operation) (x y : Register) : Machine :=
  let (result, flag) :=
    operation.apply machine.dialect (machine.register x) (machine.register y)
  let combined := machine.setRegister x result
  match flag with
  | none => combined
  | some value => combined.setRegister flagRegister value

def moveIndex (machine : Machine) (x : Register) : Machine :=
  match machine.dialect.indexAdvance with
  | .pastLast => { machine with index := machine.index + Address.ofNat (x.val + 1) }
  | .onLast => { machine with index := machine.index + Address.ofNat x.val }
  | .stay => machine

def addIndex (machine : Machine) (x : Register) : Machine :=
  let value := machine.register x
  let moved := { machine with index := machine.index.offset value }
  if machine.dialect.indexSetsFlag then
    moved.setFlag (decide (4096 ≤ machine.index.val + value.toNat))
  else moved

def replaceFirst (registers : Registers) (values : List UInt8) : Registers :=
  Vector.ofFn fun position => values[position.val]?.getD registers[position]

def storeRegisters (machine : Machine) (x : Register) : Machine :=
  { machine with
    memory := machine.memory.writeAll machine.index (machine.registersUpTo x) }.moveIndex x

def fetchRegisters (machine : Machine) (x : Register) : Machine :=
  { machine with
    registers :=
      replaceFirst machine.registers
        (machine.memory.readAll machine.index (x.val + 1)) }.moveIndex x

def saveFlags (machine : Machine) (x : Register) : Machine :=
  { machine with flags := replaceFirst machine.flags (machine.registersUpTo x) }

def restoreFlags (machine : Machine) (x : Register) : Machine :=
  { machine with
    registers := replaceFirst machine.registers (machine.flags.toList.take (x.val + 1)) }

def randomize (machine : Machine) (x : Register) (mask : UInt8) : Machine :=
  let (byte, tape) := machine.tape.next
  { machine with tape := tape }.setRegister x (byte &&& mask)

/-- The register that an indexed jump adds: V0, or the one its target names. -/
def jumpRegister (machine : Machine) (target : Address) : Register :=
  if machine.dialect.jumpAddsVx then Register.ofNat (target.val / 256) else 0

def returnFromCall (machine : Machine) : Machine × Outcome :=
  match machine.stack with
  | [] => ({ machine with pc := Memory.programStart }, .underflow)
  | back :: rest => ({ machine with pc := back, stack := rest }, .proceed)

/-- Draws a sprite at once or asks for the next refresh, as the dialect has it. -/
def drawOrWait (machine : Machine) (request : DrawRequest) : Machine × Outcome :=
  if machine.dialect.drawAwaitsRefresh then (machine, .awaitRefresh request)
  else (machine.drawSprite request, .proceed)

/-- Performs an instruction on a machine whose program counter has moved past it. -/
def perform (machine : Machine) : Instruction → Machine × Outcome
  | .clear => ({ machine with screen := machine.screen.clear }, .proceed)
  | .ret => machine.returnFromCall
  | .tallScreen =>
      ({ machine with screen := machine.screen.clear.setResolution .tall }, .proceed)
  | .scrollDown rows =>
      ({ machine with screen := machine.screen.scrollDown rows.val }, .proceed)
  | .scrollRight => ({ machine with screen := machine.screen.scrollRight 4 }, .proceed)
  | .scrollLeft => ({ machine with screen := machine.screen.scrollLeft 4 }, .proceed)
  | .exit => (machine, .exit)
  | .lowScreen => ({ machine with screen := machine.screen.setResolution .low }, .proceed)
  | .highScreen => ({ machine with screen := machine.screen.setResolution .high }, .proceed)
  | .jump target => ({ machine with pc := target }, .proceed)
  | .call target =>
      ({ machine with pc := target, stack := machine.pc :: machine.stack }, .proceed)
  | .skip test => (if machine.holds test then machine.advance else machine, .proceed)
  | .setByte x byte => (machine.setRegister x byte, .proceed)
  | .addByte x byte => (machine.setRegister x (machine.register x + byte), .proceed)
  | .combine operation x y => (machine.combine operation x y, .proceed)
  | .setIndex target => ({ machine with index := target }, .proceed)
  | .jumpIndexed target =>
      ({ machine with
          pc := target.offset (machine.register (machine.jumpRegister target)) }, .proceed)
  | .random x mask => (machine.randomize x mask, .proceed)
  | .draw x y rows =>
      machine.drawOrWait
        { x := machine.register x
          y := machine.register y
          rows := UInt8.ofNat rows.val }
  | .readDelay x => (machine.setRegister x machine.timers.delay, .proceed)
  | .awaitKey x => (machine, .awaitKey x)
  | .setDelay x =>
      ({ machine with timers := machine.timers.setDelay (machine.register x) }, .proceed)
  | .setSound x => (machine.setSound (machine.register x), .proceed)
  | .addIndex x => (machine.addIndex x, .proceed)
  | .smallDigit x =>
      ({ machine with
          index := Address.ofNat (Font.smallGlyph (Key.ofLowBits (machine.register x)).val) },
        .proceed)
  | .bigDigit x =>
      ({ machine with
          index := Address.ofNat (Font.bigGlyph (Key.ofLowBits (machine.register x)).val) },
        .proceed)
  | .decimal x =>
      ({ machine with
          memory :=
            machine.memory.writeAll machine.index (decimalDigits (machine.register x)) },
        .proceed)
  | .store x => (machine.storeRegisters x, .proceed)
  | .fetch x => (machine.fetchRegisters x, .proceed)
  | .saveFlags x => (machine.saveFlags x, .proceed)
  | .restoreFlags x => (machine.restoreFlags x, .proceed)

def step (machine : Machine) : Machine × Except Fault Outcome :=
  match Instruction.decode? machine.platform machine.nextWord with
  | none => (machine, .error (.unknownOpcode machine.pc.val machine.nextWord))
  | some instruction =>
      let (stepped, outcome) := machine.advance.perform instruction
      (stepped, .ok outcome)

theorem step_error {machine stepped : Machine} {fault : Fault}
    (step : machine.step = (stepped, .error fault)) :
    stepped = machine ∧ fault = .unknownOpcode machine.pc.val machine.nextWord := by
  unfold Machine.step at step
  split at step
  · cases step
    exact ⟨rfl, rfl⟩
  · cases step

end Machine

end Chip8
