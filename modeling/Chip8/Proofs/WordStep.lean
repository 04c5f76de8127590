import Chip8.Proofs.WordScreen

set_option autoImplicit false

/-!
Instructions on the machine in words. The parts of an instruction are cut out of its word, and
addresses are added as words and put under the mask afterwards, so that each sum can leave its
word before.

Main statements: no instruction fails in this way (`perform?_words`), and a step of the machine in
words is the step of the machine (`step?_words`).
-/

namespace Chip8
namespace Words

/-! ### The parts of a word -/

def addressPart (opcode : UInt16) : UInt16 := opcode &&& 0x0FFF

def bytePart (opcode : UInt16) : UInt8 := (opcode &&& 0x00FF).toUInt8

def secondDigit (opcode : UInt16) : UInt8 := ((opcode >>> 8) &&& 0xF).toUInt8

def thirdDigit (opcode : UInt16) : UInt8 := ((opcode >>> 4) &&& 0xF).toUInt8

def lastDigit (opcode : UInt16) : UInt8 := (opcode &&& 0xF).toUInt8

theorem toNat_bytePart (opcode : UInt16) : (bytePart opcode).toNat = opcode.toNat % 256 := by
  have low : (opcode &&& 0x00FF).toNat = opcode.toNat % 256 := by
    rw [UInt16.toNat_and]
    exact Nat.and_two_pow_sub_one_eq_mod opcode.toNat 8
  rw [bytePart, UInt16.toNat_toUInt8, low]
  omega

private theorem toNat_lowDigit (word : UInt16) :
    ((word &&& 0xF).toUInt8).toNat = word.toNat % 16 := by
  have low : (word &&& 0xF).toNat = word.toNat % 16 := by
    rw [UInt16.toNat_and]
    exact Nat.and_two_pow_sub_one_eq_mod word.toNat 4
  rw [UInt16.toNat_toUInt8, low]
  omega

theorem toNat_secondDigit (opcode : UInt16) :
    (secondDigit opcode).toNat = opcode.toNat / 256 % 16 := by
  rw [secondDigit, toNat_lowDigit, UInt16.toNat_shiftRight, Nat.shiftRight_eq_div_pow]
  rfl

theorem toNat_thirdDigit (opcode : UInt16) :
    (thirdDigit opcode).toNat = opcode.toNat / 16 % 16 := by
  rw [thirdDigit, toNat_lowDigit, UInt16.toNat_shiftRight, Nat.shiftRight_eq_div_pow]
  rfl

theorem toNat_lastDigit (opcode : UInt16) : (lastDigit opcode).toNat = opcode.toNat % 16 :=
  toNat_lowDigit opcode

theorem parts_of_addressCode {family : Nat} {target : Address} {opcode : UInt16}
    (code : addressCode family target = opcode.toNat) : addressPart opcode = target.word := by
  have inside := target.isLt
  unfold addressCode at code
  apply UInt16.toNat_inj.mp
  rw [addressPart, Address.toNat_word]
  refine (toNat_mask opcode).trans ?_
  omega

theorem parts_of_byteCode {family : Nat} {x : Register} {byte : UInt8} {opcode : UInt16}
    (code : byteCode family x byte = opcode.toNat) :
    Register.ofNat (secondDigit opcode).toNat = x ∧ (secondDigit opcode).toNat = x.val ∧
      bytePart opcode = byte := by
  have inside := x.isLt
  have small := byte.toNat_lt
  unfold byteCode at code
  have digit : (secondDigit opcode).toNat = x.val := by
    rw [toNat_secondDigit]
    omega
  refine ⟨Fin.ext ?_, digit, UInt8.toNat_inj.mp ?_⟩
  · rw [Register.val_ofNat, digit]
    omega
  · rw [toNat_bytePart]
    omega

theorem parts_of_registersCode {family : Nat} {x y : Register} {last : Fin 16} {opcode : UInt16}
    (code : registersCode family x y last = opcode.toNat) :
    Register.ofNat (secondDigit opcode).toNat = x ∧
      Register.ofNat (thirdDigit opcode).toNat = y ∧ (lastDigit opcode).toNat = last.val := by
  have inside := x.isLt
  have insideY := y.isLt
  have small := last.isLt
  unfold registersCode at code
  refine ⟨Fin.ext ?_, Fin.ext ?_, ?_⟩
  · rw [Register.val_ofNat, toNat_secondDigit]
    omega
  · rw [Register.val_ofNat, toNat_thirdDigit]
    omega
  · rw [toNat_lastDigit]
    omega

/-! ### Pieces of instructions -/

def setFlag? (words : Words) (value : UInt8) : Option Words := do
  let registers ← replace? words.registers 15 value
  some { words with registers := registers }

def skipIf? (words : Words) (condition : Bool) : Option Words :=
  if condition then do
    let next ← addWord? words.pc 2
    some { words with pc := next &&& addressMask }
  else some words

def isKeyDown? (words : Words) (value : UInt8) : Option Bool :=
  words.keypad.down.toArray[(value &&& 0x0F).toNat]?

def holds? (words : Words) (opcode : UInt16) : Test → Option Bool
  | .isByte _ _ => do
      let value ← words.register? (secondDigit opcode)
      some (value == bytePart opcode)
  | .isNotByte _ _ => do
      let value ← words.register? (secondDigit opcode)
      some (value != bytePart opcode)
  | .isEqual _ _ => do
      let left ← words.register? (secondDigit opcode)
      let right ← words.register? (thirdDigit opcode)
      some (left == right)
  | .isDifferent _ _ => do
      let left ← words.register? (secondDigit opcode)
      let right ← words.register? (thirdDigit opcode)
      some (left != right)
  | .keyDown _ => do
      let value ← words.register? (secondDigit opcode)
      words.isKeyDown? value
  | .keyUp _ => do
      let value ← words.register? (secondDigit opcode)
      let down ← words.isKeyDown? value
      some !down

def combine? (words : Words) (operation : Operation) (x y : UInt8) : Option Words := do
  let left ← words.register? x
  let right ← words.register? y
  let combined ← words.setRegister? x (operation.apply words.dialect left right).1
  match (operation.apply words.dialect left right).2 with
  | none => some combined
  | some value => combined.setFlag? value

def jumpOffset? (words : Words) (opcode : UInt16) : Option UInt8 :=
  if words.dialect.jumpAddsVx then words.register? (secondDigit opcode) else words.registers[0]?

def jumpIndexed? (words : Words) (opcode : UInt16) : Option Words := do
  let offset ← words.jumpOffset? opcode
  let sum ← addWord? (addressPart opcode) offset.toUInt16
  some { words with pc := sum &&& addressMask }

def addIndex? (words : Words) (x : UInt8) : Option Words := do
  let value ← words.register? x
  let sum ← addWord? words.index value.toUInt16
  let flagged ←
    if words.dialect.indexSetsFlag then words.setFlag? (decide (addressMask < sum)).toUInt8
    else some words
  some { flagged with index := sum &&& addressMask }

/-- The address of a digit's picture, from where the pictures start and the bytes in each. -/
def glyph? (words : Words) (x : UInt8) (start size : UInt16) : Option Words := do
  let value ← words.register? x
  let offset ← mulWord? (value &&& 0x0F).toUInt16 size
  let index ← addWord? start offset
  some { words with index := index }

def decimal? (words : Words) (x : UInt8) : Option Words := do
  let value ← words.register? x
  let first ← words.writeByte? words.index (value / 100)
  let next ← addWord? first.index 1
  let second ← first.writeByte? next (value / 10 % 10)
  let last ← addWord? second.index 2
  second.writeByte? last (value % 10)

def moveIndex? (words : Words) (x : UInt8) : Option Words :=
  match words.dialect.indexAdvance with
  | .pastLast => do
      let distance ← addWord? x.toUInt16 1
      let sum ← addWord? words.index distance
      some { words with index := sum &&& addressMask }
  | .onLast => do
      let sum ← addWord? words.index x.toUInt16
      some { words with index := sum &&& addressMask }
  | .stay => some words

def storeFrom? : Nat → Nat → Words → Option Words
  | 0, _, words => some words
  | left + 1, x, words => do
      let address ← addWord? words.index (UInt16.ofNat x)
      let value ← words.register? (UInt8.ofNat x)
      let stored ← words.writeByte? address value
      storeFrom? left (x + 1) stored

def fetchFrom? : Nat → Nat → Words → Option Words
  | 0, _, words => some words
  | left + 1, x, words => do
      let address ← addWord? words.index (UInt16.ofNat x)
      let value ← words.readByte? address
      let fetched ← words.setRegister? (UInt8.ofNat x) value
      fetchFrom? left (x + 1) fetched

def copyFirst? (source target : Array UInt8) (count : Nat) : Option (Array UInt8) :=
  if count ≤ source.size ∧ count ≤ target.size then
    some (source.extract 0 count ++ target.extract count target.size)
  else none

def sprite? (words : Words) (request : DrawRequest) : Option Sprite :=
  if request.rows = 0 ∧ words.resolution = .high then do
    let rows ← (List.range 16).mapM fun row => do
      let distance ← mulWord? (UInt16.ofNat row) 2
      let address ← addWord? words.index distance
      words.readWord? address
    some { x := request.x.toNat, y := request.y.toNat, rows := rows, width := 16 }
  else do
    let rows ← (List.range request.rows.toNat).mapM fun row => do
      let address ← addWord? words.index (UInt16.ofNat row)
      let byte ← words.readByte? address
      some (byte.toUInt16 <<< 8)
    some { x := request.x.toNat, y := request.y.toNat, rows := rows, width := 8 }

def drawSprite? (words : Words) (request : DrawRequest) : Option Words := do
  let sprite ← words.sprite? request
  let (cells, collided) ←
    draw? words.resolution words.filter words.cells sprite words.dialect.spritesWrap
  { words with cells := cells }.setFlag? collided.toUInt8

def drawOrWait? (words : Words) (request : DrawRequest) : Option (Words × Outcome) :=
  if words.dialect.drawAwaitsRefresh then some (words, .awaitRefresh request)
  else do
    let drawn ← words.drawSprite? request
    some (drawn, .proceed)

def return? (words : Words) : Option (Words × Outcome) :=
  match words.stack with
  | [] => some ({ words with pc := 0x200 }, .underflow)
  | back :: rest => some ({ words with pc := back, stack := rest }, .proceed)

/-- Performs an instruction whose word is known on a machine that has moved past it. -/
def perform? (words : Words) (opcode : UInt16) : Instruction → Option (Words × Outcome)
  | .clear =>
      some ({ words with cells := words.cells.map (Pixel.turnOff words.filter) }, .proceed)
  | .ret => words.return?
  | .tallScreen =>
      some ({ words with
          cells := words.cells.map (Pixel.turnOff words.filter), resolution := .tall }, .proceed)
  | .scrollDown _ => do
      let cells ← scrollDown? words.resolution words.cells (lastDigit opcode).toNat
      some ({ words with cells := cells }, .proceed)
  | .scrollRight => do
      let cells ← scrollRight? words.resolution words.cells 4
      some ({ words with cells := cells }, .proceed)
  | .scrollLeft => do
      let cells ← scrollLeft? words.resolution words.cells 4
      some ({ words with cells := cells }, .proceed)
  | .exit => some (words, .exit)
  | .lowScreen => some ({ words with resolution := .low }, .proceed)
  | .highScreen => some ({ words with resolution := .high }, .proceed)
  | .jump _ => some ({ words with pc := addressPart opcode }, .proceed)
  | .call _ =>
      some ({ words with pc := addressPart opcode, stack := words.pc :: words.stack }, .proceed)
  | .skip test => do
      let condition ← words.holds? opcode test
      let skipped ← words.skipIf? condition
      some (skipped, .proceed)
  | .setByte _ _ => do
      let set ← words.setRegister? (secondDigit opcode) (bytePart opcode)
      some (set, .proceed)
  | .addByte _ _ => do
      let value ← words.register? (secondDigit opcode)
      let set ← words.setRegister? (secondDigit opcode) (value + bytePart opcode)
      some (set, .proceed)
  | .combine operation _ _ => do
      let combined ← words.combine? operation (secondDigit opcode) (thirdDigit opcode)
      some (combined, .proceed)
  | .setIndex _ => some ({ words with index := addressPart opcode }, .proceed)
  | .jumpIndexed _ => do
      let jumped ← words.jumpIndexed? opcode
      some (jumped, .proceed)
  | .random _ _ => do
      let set ← { words with tape := words.tape.next.2 }.setRegister? (secondDigit opcode)
        (words.tape.next.1 &&& bytePart opcode)
      some (set, .proceed)
  | .draw _ _ _ => do
      let x ← words.register? (secondDigit opcode)
      let y ← words.register? (thirdDigit opcode)
      words.drawOrWait? { x := x, y := y, rows := lastDigit opcode }
  | .readDelay _ => do
      let set ← words.setRegister? (secondDigit opcode) words.timers.delay
      some (set, .proceed)
  | .awaitKey _ => some (words, .awaitKey (Register.ofNat (secondDigit opcode).toNat))
  | .setDelay _ => do
      let value ← words.register? (secondDigit opcode)
      some ({ words with timers := words.timers.setDelay value }, .proceed)
  | .setSound _ => do
      let value ← words.register? (secondDigit opcode)
      some ({ words with
          timers := (words.timers.setSound value).1
          tone := (words.timers.setSound value).2.or words.tone }, .proceed)
  | .addIndex _ => do
      let added ← words.addIndex? (secondDigit opcode)
      some (added, .proceed)
  | .smallDigit _ => do
      let pointed ← words.glyph? (secondDigit opcode) 0x000 5
      some (pointed, .proceed)
  | .bigDigit _ => do
      let pointed ← words.glyph? (secondDigit opcode) 0x050 10
      some (pointed, .proceed)
  | .decimal _ => do
      let written ← words.decimal? (secondDigit opcode)
      some (written, .proceed)
  | .store _ => do
      let stored ← storeFrom? ((secondDigit opcode).toNat + 1) 0 words
      let moved ← stored.moveIndex? (secondDigit opcode)
      some (moved, .proceed)
  | .fetch _ => do
      let fetched ← fetchFrom? ((secondDigit opcode).toNat + 1) 0 words
      let moved ← fetched.moveIndex? (secondDigit opcode)
      some (moved, .proceed)
  | .saveFlags _ => do
      let count ← addSize? (secondDigit opcode).toNat 1
      let flags ← copyFirst? words.registers words.flags count
      some ({ words with flags := flags }, .proceed)
  | .restoreFlags _ => do
      let count ← addSize? (secondDigit opcode).toNat 1
      let registers ← copyFirst? words.flags words.registers count
      some ({ words with registers := registers }, .proceed)

def step? (words : Words) : Option (Words × Except Fault Outcome) := do
  let opcode ← words.readWord? words.pc
  let next ← addWord? words.pc 2
  match Instruction.decode? words.platform opcode with
  | none => some (words, .error (.unknownOpcode words.pc.toNat opcode))
  | some instruction => do
      let (stepped, outcome) ←
        { words with pc := next &&& addressMask }.perform? opcode instruction
      some (stepped, .ok outcome)

/-! ### The pieces do what the machine does -/

section Pieces

variable (machine : Machine)

theorem setFlag?_words (value : UInt8) :
    machine.words.setFlag? value = some (machine.setRegister flagRegister value).words := by
  have replaced := replace?_toArray machine.registers (by decide : 15 < 16) value
  change (replace? machine.registers.toArray 15 value >>= _) = _
  rw [replaced]
  rfl

theorem skipIf?_words (condition : Bool) :
    machine.words.skipIf? condition =
      some (if condition then machine.advance else machine).words := by
  cases condition with
  | false => rfl
  | true =>
      have sum : addWord? machine.words.pc 2 = some (machine.pc.word + 2) :=
        addAddress?_eq machine.pc (by decide)
      have next : (machine.pc.word + 2) &&& addressMask = (machine.pc + 2).word :=
        mask_addAddress machine.pc 2
      simp only [skipIf?, if_true, sum, some_bind, next]
      rfl

theorem isKeyDown?_words (value : UInt8) :
    machine.words.isKeyDown? value =
      some (machine.keypad.isDown (Key.ofLowBits value)) := by
  rw [isKeyDown?, toNat_lowBits]
  exact getElem?_toArray machine.keypad.down (Nat.mod_lt value.toNat (by decide))

theorem holds?_words {test : Test} {opcode : UInt16} (code : test.code = opcode.toNat) :
    machine.words.holds? opcode test = some (machine.holds test) := by
  cases test with
  | isByte x byte =>
      obtain ⟨second, _, low⟩ := parts_of_byteCode code
      rw [holds?, register?_words, second, low]
      rfl
  | isNotByte x byte =>
      obtain ⟨second, _, low⟩ := parts_of_byteCode code
      rw [holds?, register?_words, second, low]
      rfl
  | isEqual x y =>
      obtain ⟨second, third, _⟩ := parts_of_registersCode code
      rw [holds?, register?_words, register?_words, second, third]
      rfl
  | isDifferent x y =>
      obtain ⟨second, third, _⟩ := parts_of_registersCode code
      rw [holds?, register?_words, register?_words, second, third]
      rfl
  | keyDown x =>
      obtain ⟨second, _, _⟩ := parts_of_byteCode code
      rw [holds?, register?_words, second, some_bind, isKeyDown?_words]
      rfl
  | keyUp x =>
      obtain ⟨second, _, _⟩ := parts_of_byteCode code
      rw [holds?, register?_words, second, some_bind, isKeyDown?_words]
      rfl

theorem combine?_words (operation : Operation) {x y : UInt8} :
    machine.words.combine? operation x y =
      some (machine.combine operation (Register.ofNat x.toNat) (Register.ofNat y.toNat)).words := by
  rw [combine?, register?_words, some_bind, register?_words, some_bind, setRegister?_words,
    some_bind, Machine.combine]
  change (match (operation.apply machine.dialect _ _).2 with
    | none => _
    | some value => _) = _
  cases flag : (operation.apply machine.dialect (machine.register (Register.ofNat x.toNat))
      (machine.register (Register.ofNat y.toNat))).2 with
  | none =>
      simp only [flag]
      rfl
  | some value =>
      simp only [flag, setFlag?_words]
      rfl

private theorem addByte?_eq (address : Address) (value : UInt8) :
    addWord? address.word value.toUInt16 = some (address.word + value.toUInt16) := by
  have small := value.toNat_lt
  apply addAddress?_eq
  rw [UInt8.toNat_toUInt16]
  omega

private theorem mask_addByte (address : Address) (value : UInt8) :
    (address.word + value.toUInt16) &&& addressMask = (address.offset value).word := by
  rw [mask_addAddress, UInt8.toNat_toUInt16]
  rfl

theorem jumpIndexed?_words {target : Address} {opcode : UInt16}
    (code : addressCode 0xB target = opcode.toNat) :
    machine.words.jumpIndexed? opcode =
      some { machine with
        pc := target.offset (machine.register (machine.jumpRegister target)) }.words := by
  have offset : machine.words.jumpOffset? opcode =
      some (machine.register (machine.jumpRegister target)) := by
    have dialect : machine.words.dialect = machine.dialect := rfl
    rw [jumpOffset?, dialect, Machine.jumpRegister]
    by_cases added : machine.dialect.jumpAddsVx = true
    · have inside := target.isLt
      have second :
          Register.ofNat (secondDigit opcode).toNat = Register.ofNat (target.val / 256) := by
        apply Fin.ext
        rw [Register.val_ofNat, Register.val_ofNat, toNat_secondDigit, ← code]
        unfold addressCode
        omega
      rw [if_pos added, if_pos added, register?_words, second]
    · rw [if_neg added, if_neg added]
      exact getElem?_toArray machine.registers (by decide)
  rw [jumpIndexed?, offset, some_bind, parts_of_addressCode code, addByte?_eq, some_bind,
    mask_addByte]
  rfl

theorem addIndex?_words (x : UInt8) :
    machine.words.addIndex? x = some (machine.addIndex (Register.ofNat x.toNat)).words := by
  have inside := machine.index.isLt
  have leaves : ∀ value : UInt8, decide (addressMask < machine.index.word + value.toUInt16) =
      decide (4096 ≤ machine.index.val + value.toNat) := by
    intro value
    have small := value.toNat_lt
    have sum : (machine.index.word + value.toUInt16).toNat = machine.index.val + value.toNat := by
      rw [UInt16.toNat_add, Address.toNat_word, UInt8.toNat_toUInt16]
      omega
    rw [decide_eq_decide, UInt16.lt_iff_toNat_lt, sum]
    exact Iff.rfl
  unfold addIndex? Machine.addIndex
  rw [register?_words, some_bind]
  change (addWord? machine.index.word _ >>= _) = _
  rw [addByte?_eq, some_bind, leaves, mask_addByte]
  by_cases told : machine.dialect.indexSetsFlag = true
  · have toldWords : machine.words.dialect.indexSetsFlag = true := told
    rw [if_pos toldWords, setFlag?_words, some_bind]
    simp only [told, if_true]
    rfl
  · have silentWords : ¬ machine.words.dialect.indexSetsFlag = true := told
    rw [if_neg silentWords, some_bind]
    simp only [told]
    rfl

theorem glyph?_words (x : UInt8) {start size : UInt16}
    (inside : start.toNat + 15 * size.toNat < 4096) :
    machine.words.glyph? x start size =
      some { machine with
        index := Address.ofNat (start.toNat +
          size.toNat *
            (Key.ofLowBits (machine.register (Register.ofNat x.toNat))).val) }.words := by
  unfold glyph?
  rw [register?_words, some_bind]
  generalize machine.register (Register.ofNat x.toNat) = value
  have key : (Key.ofLowBits value).val = value.toNat % 16 := rfl
  have low : (value &&& 0x0F).toUInt16.toNat = value.toNat % 16 := by
    rw [UInt8.toNat_toUInt16, toNat_lowBits]
  have bound : value.toNat % 16 * size.toNat ≤ 15 * size.toNat :=
    Nat.mul_le_mul_right _ (by omega)
  have product : ((value &&& 0x0F).toUInt16 * size).toNat = value.toNat % 16 * size.toNat := by
    rw [UInt16.toNat_mul, low]
    omega
  rw [mulWord?_eq (by rw [low]; omega), some_bind, addWord?_eq (by rw [product]; omega), some_bind]
  have index : start + (value &&& 0x0F).toUInt16 * size =
      (Address.ofNat (start.toNat + size.toNat * (Key.ofLowBits value).val)).word := by
    apply UInt16.toNat_inj.mp
    rw [UInt16.toNat_add, product, Address.toNat_word, Address.val_ofNat, key,
      Nat.mul_comm size.toNat]
    omega
  rw [index]
  rfl

theorem decimal?_words (x : UInt8) :
    machine.words.decimal? x =
      some { machine with
        memory := machine.memory.writeAll machine.index
          (decimalDigits (machine.register (Register.ofNat x.toNat))) }.words := by
  have index : Address.ofNat machine.index.word.toNat = machine.index := by
    rw [Address.toNat_word]
    exact Fin.ofNat_val_eq_self machine.index
  unfold decimal?
  rw [register?_words, some_bind]
  change (machine.words.writeByte? machine.index.word _ >>= _) = _
  rw [writeByte?_words, some_bind, index]
  change (addWord? machine.index.word 1 >>= _) = _
  rw [addAddress?_eq machine.index (by decide), some_bind, writeByte?_words, some_bind,
    ofNat_addAddress]
  change (addWord? machine.index.word 2 >>= _) = _
  rw [addAddress?_eq machine.index (by decide), some_bind, writeByte?_words, ofNat_addAddress]
  have last : machine.index + Address.ofNat (2 : UInt16).toNat = machine.index + 1 + 1 := by
    apply Fin.ext
    simp only [Fin.val_add, Address.val_ofNat]
    change (machine.index.val + 2) % 4096 = ((machine.index.val + 1) % 4096 + 1) % 4096
    omega
  rw [last]
  rfl

theorem moveIndex?_words {x : UInt8} (small : x.toNat < 16) :
    machine.words.moveIndex? x = some (machine.moveIndex (Register.ofNat x.toNat)).words := by
  have register : (Register.ofNat x.toNat).val = x.toNat := Nat.mod_eq_of_lt small
  have one : x.toUInt16.toNat + (1 : UInt16).toNat < 65536 := by
    rw [UInt8.toNat_toUInt16]
    change x.toNat + 1 < 65536
    omega
  have distance : (x.toUInt16 + 1).toNat = x.toNat + 1 := by
    rw [UInt16.toNat_add, UInt8.toNat_toUInt16]
    change (x.toNat + 1) % 65536 = x.toNat + 1
    omega
  unfold moveIndex? Machine.moveIndex
  change (match machine.dialect.indexAdvance with
    | .pastLast => _
    | .onLast => _
    | .stay => _) = _
  cases machine.dialect.indexAdvance with
  | pastLast =>
      change (addWord? x.toUInt16 1 >>= fun distance =>
        addWord? machine.index.word distance >>= _) = _
      rw [addWord?_eq one, some_bind, addAddress?_eq _ (by omega), some_bind, mask_addAddress,
        distance, register]
      rfl
  | onLast =>
      change (addWord? machine.index.word x.toUInt16 >>= _) = _
      rw [addByte?_eq, some_bind, mask_addByte, register]
      rfl
  | stay => rfl

private theorem toNat_small {register : Nat} (small : register < 16) :
    (UInt16.ofNat register).toNat = register ∧ (UInt8.ofNat register).toNat = register := by
  constructor
  · rw [UInt16.toNat_ofNat', Nat.mod_eq_of_lt (by omega)]
  · rw [UInt8.toNat_ofNat', Nat.mod_eq_of_lt (by omega)]

theorem storeFrom?_words (left x : Nat) (fits : x + left ≤ 16) :
    storeFrom? left x machine.words =
      some { machine with
        memory := machine.memory.writeAll (machine.index + Address.ofNat x)
          ((machine.registers.toList.drop x).take left) }.words := by
  -- storing changes no register, so those left are the same after each byte
  induction left generalizing machine x with
  | zero => rfl
  | succ left ih =>
      have inside : x < machine.registers.toList.length := by
        rw [Vector.length_toList]
        omega
      obtain ⟨word, byte⟩ := toNat_small (by omega : x < 16)
      have head : machine.registers.toList[x] = machine.register (Register.ofNat x) := by
        have same : (Register.ofNat x).val = x := Nat.mod_eq_of_lt (by omega)
        rw [Vector.getElem_toList, Machine.register]
        simp only [Fin.getElem_fin, same]
      have next : machine.index + Address.ofNat x + 1 = machine.index + Address.ofNat (x + 1) := by
        apply Fin.ext
        simp only [Fin.val_add, Address.val_ofNat]
        change ((machine.index.val + x % 4096) % 4096 + 1) % 4096 =
          (machine.index.val + (x + 1) % 4096) % 4096
        omega
      rw [storeFrom?]
      change (addWord? machine.index.word _ >>= _) = _
      rw [addAddress?_eq machine.index (by omega), some_bind, register?_words, some_bind,
        writeByte?_words, some_bind, ih _ (x + 1) (by omega), ofNat_addAddress, word, byte,
        List.drop_eq_getElem_cons inside, List.take_succ_cons, Memory.writeAll, head, next]

theorem store?_words {x : Register} :
    storeFrom? (x.val + 1) 0 machine.words =
      some { machine with
        memory := machine.memory.writeAll machine.index (machine.registersUpTo x) }.words := by
  have inside := x.isLt
  have start : machine.index + Address.ofNat 0 = machine.index := by
    apply Fin.ext
    simp only [Fin.val_add, Address.val_ofNat]
    have small := machine.index.isLt
    omega
  rw [storeFrom?_words machine (x.val + 1) 0 (by omega), start]
  rfl

private theorem replaceFirst_succ (registers : Registers) (memory : Memory) (start : Address)
    {count : Nat} (inside : count < 16) :
    (Machine.replaceFirst registers (memory.readAll start count)).set count
        (memory.read (start + Address.ofNat count)) =
      Machine.replaceFirst registers (memory.readAll start (count + 1)) := by
  apply Vector.ext
  intro position inVector
  simp only [Machine.replaceFirst, Vector.getElem_ofFn, Vector.getElem_set, Memory.readAll,
    List.getElem?_map]
  by_cases same : count = position
  · subst same
    rw [if_pos rfl, List.getElem?_range (Nat.lt_succ_self count)]
    rfl
  · rw [if_neg same]
    by_cases earlier : position < count
    · rw [List.getElem?_range earlier, List.getElem?_range (by omega)]
    · rw [List.getElem?_eq_none (by simp; omega), List.getElem?_eq_none (by simp; omega)]

theorem fetchFrom?_words (left x : Nat) (fits : x + left ≤ 16) :
    fetchFrom? left x { machine with
        registers := Machine.replaceFirst machine.registers
          (machine.memory.readAll machine.index x) }.words =
      some { machine with
        registers := Machine.replaceFirst machine.registers
          (machine.memory.readAll machine.index (x + left)) }.words := by
  induction left generalizing x with
  | zero => rfl
  | succ left ih =>
      obtain ⟨word, byte⟩ := toNat_small (by omega : x < 16)
      have same : (Register.ofNat x).val = x := Nat.mod_eq_of_lt (by omega)
      have filled := replaceFirst_succ machine.registers machine.memory machine.index
        (by omega : x < 16)
      rw [fetchFrom?]
      change (addWord? machine.index.word _ >>= _) = _
      rw [addAddress?_eq machine.index (by omega), some_bind, readByte?_words, some_bind,
        setRegister?_words, some_bind, ofNat_addAddress, word, byte]
      have step : Machine.setRegister { machine with
            registers := Machine.replaceFirst machine.registers
              (machine.memory.readAll machine.index x) } (Register.ofNat x)
            (machine.memory.read (machine.index + Address.ofNat x)) =
          { machine with
            registers := Machine.replaceFirst machine.registers
              (machine.memory.readAll machine.index (x + 1)) } := by
        simp only [Machine.setRegister, same, filled]
      have total : x + 1 + left = x + (left + 1) := by omega
      rw [step, ih (x + 1) (by omega), total]

theorem fetch?_words {x : Register} :
    fetchFrom? (x.val + 1) 0 machine.words =
      some { machine with
        registers := Machine.replaceFirst machine.registers
          (machine.memory.readAll machine.index (x.val + 1)) }.words := by
  have inside := x.isLt
  have start : Machine.replaceFirst machine.registers
      (machine.memory.readAll machine.index 0) = machine.registers :=
    Vector.ext fun position inVector => by simp [Machine.replaceFirst, Memory.readAll]
  have fetched := fetchFrom?_words machine (x.val + 1) 0 (by omega)
  rw [start, Nat.zero_add] at fetched
  exact fetched

theorem copyFirst?_toArray (source target : Registers) {x : Register} :
    copyFirst? source.toArray target.toArray (x.val + 1) =
      some (Machine.replaceFirst target (source.toList.take (x.val + 1))).toArray := by
  have inside := x.isLt
  have sourceSize : source.toArray.size = 16 := source.size_toArray
  have targetSize : target.toArray.size = 16 := target.size_toArray
  have first : (source.toArray.extract 0 (x.val + 1)).size = x.val + 1 := by
    rw [Array.size_extract]
    omega
  rw [copyFirst?, if_pos (by omega)]
  refine congrArg some (Array.ext (by simp; omega) ?_)
  intro position inArray inVector
  rw [Vector.size_toArray] at inVector
  simp only [Machine.replaceFirst, Vector.getElem_toArray, Vector.getElem_ofFn]
  by_cases copied : position < x.val + 1
  · have taken : (source.toList.take (x.val + 1))[position]? = some source[position] := by
      rw [List.getElem?_take_of_lt copied, List.getElem?_eq_getElem (by simpa using inVector),
        Vector.getElem_toList]
    rw [Array.getElem_append_left (first.symm ▸ copied), taken]
    simp
  · have beyond : (source.toList.take (x.val + 1))[position]? = none := by
      rw [List.getElem?_eq_none_iff, List.length_take]
      omega
    have rest : x.val + 1 + (position - (x.val + 1)) = position := by omega
    rw [Array.getElem_append_right (by omega), beyond, Option.getD_none, Array.getElem_extract]
    simp only [first, rest, Vector.getElem_toArray]
    rfl

private theorem distance_eq {row : Nat} (small : row < 256) :
    (UInt16.ofNat row).toNat = row ∧
      mulWord? (UInt16.ofNat row) 2 = some (UInt16.ofNat row * 2) ∧
      (UInt16.ofNat row * 2).toNat = 2 * row := by
  have word : (UInt16.ofNat row).toNat = row := by
    rw [UInt16.toNat_ofNat', Nat.mod_eq_of_lt (by omega)]
  have two : (2 : UInt16).toNat = 2 := rfl
  refine ⟨word, mulWord?_eq (by rw [word, two]; omega), ?_⟩
  rw [UInt16.toNat_mul, word, two]
  omega

theorem sprite?_words (request : DrawRequest) :
    machine.words.sprite? request = some (machine.sprite request) := by
  have few := request.rows.toNat_lt
  unfold sprite? Machine.sprite
  by_cases large : request.rows = 0 ∧ machine.screen.resolution = .high
  · have largeWords : request.rows = 0 ∧ machine.words.resolution = .high := large
    rw [if_pos large, if_pos largeWords, mapM_eq_some fun row =>
      machine.memory.word (machine.index + Address.ofNat (2 * row))]
    · rfl
    · intro row member
      have below := List.mem_range.mp member
      obtain ⟨_, product, distance⟩ := distance_eq (by omega : row < 256)
      rw [product, some_bind]
      change (addWord? machine.index.word _ >>= _) = _
      rw [addAddress?_eq machine.index (by omega), some_bind, readWord?_words, ofNat_addAddress,
        distance]
  · have smallWords : ¬ (request.rows = 0 ∧ machine.words.resolution = .high) := large
    rw [if_neg large, if_neg smallWords, mapM_eq_some fun row =>
      Sprite.narrowRow (machine.memory.read (machine.index + Address.ofNat row))]
    · rw [some_bind, Memory.readAll, List.map_map]
      rfl
    · intro row member
      have below := List.mem_range.mp member
      obtain ⟨word, _, _⟩ := distance_eq (by omega : row < 256)
      change (addWord? machine.index.word _ >>= _) = _
      rw [addAddress?_eq machine.index (by omega), some_bind, readByte?_words, some_bind,
        ofNat_addAddress, word]
      rfl

theorem drawSprite?_words (request : DrawRequest) :
    machine.words.drawSprite? request = some (machine.drawSprite request).words := by
  have few := request.rows.toNat_lt
  have bounds : (machine.sprite request).width ≤ 16 ∧
      (machine.sprite request).rows.length ≤ 256 := by
    unfold Machine.sprite
    split
    · simp
    · simp [Memory.readAll]
      omega
  have drawn := draw?_eq machine.screen.resolution machine.screen.filter (machine.sprite request)
    machine.dialect.spritesWrap bounds.1 bounds.2 machine.screen.grid
  rw [drawSprite?, sprite?_words, some_bind]
  change (draw? machine.screen.resolution machine.screen.filter machine.screen.grid.cells.toArray
    (machine.sprite request) machine.dialect.spritesWrap >>= _) = _
  rw [drawn, some_bind]
  exact setFlag?_words
    { machine with
      screen := (machine.screen.draw (machine.sprite request) machine.dialect.spritesWrap).1 }
    (machine.screen.draw (machine.sprite request) machine.dialect.spritesWrap).2.toUInt8

theorem drawOrWait?_words (request : DrawRequest) :
    machine.words.drawOrWait? request =
      some ((machine.drawOrWait request).1.words, (machine.drawOrWait request).2) := by
  have dialect : machine.words.dialect = machine.dialect := rfl
  rw [drawOrWait?, Machine.drawOrWait, dialect]
  by_cases waits : machine.dialect.drawAwaitsRefresh = true
  · rw [if_pos waits, if_pos waits]
  · rw [if_neg waits, if_neg waits, drawSprite?_words, some_bind]

theorem return?_words :
    machine.words.return? =
      some (machine.returnFromCall.1.words, machine.returnFromCall.2) := by
  have stack : machine.words.stack = machine.stack.map Address.word := rfl
  rw [return?, Machine.returnFromCall, stack]
  cases machine.stack with
  | nil => rfl
  | cons back rest => rfl

theorem clearCells_words :
    machine.words.cells.map (Pixel.turnOff machine.words.filter) =
      machine.screen.clear.grid.cells.toArray :=
  Vector.toArray_map.symm

theorem withGrid_words (grid : Grid) :
    { machine.words with cells := grid.cells.toArray } =
      { machine with screen := { machine.screen with grid := grid } }.words := rfl

private theorem scroll_counted {resolution : Resolution} {count : Nat} (small : count ≤ 16) :
    count * resolution.cellsDown < sizeLimit ∧ count * resolution.cellsAcross < sizeLimit := by
  have down : resolution.cellsDown ≤ 2 := by cases resolution <;> decide
  have across : resolution.cellsAcross ≤ 2 := by cases resolution <;> decide
  have rows := Nat.mul_le_mul small down
  have columns := Nat.mul_le_mul small across
  unfold sizeLimit
  omega

private theorem register_counted (x : Register) : x.val + 1 < sizeLimit := by
  have inside := x.isLt
  unfold sizeLimit
  omega

end Pieces

/-! ### Instructions and steps -/

/-- No instruction fails on the machine in words, and it does there what it does on the machine. -/
theorem perform?_words (machine : Machine) {instruction : Instruction} {opcode : UInt16}
    (code : instruction.code = opcode.toNat) :
    machine.words.perform? opcode instruction =
      some ((machine.perform instruction).1.words, (machine.perform instruction).2) := by
  -- the parts cut out of the word are those of the instruction, and then its pieces agree
  cases instruction with
  | clear =>
      rw [perform?, Machine.perform, clearCells_words]
      rfl
  | ret => exact return?_words machine
  | tallScreen =>
      rw [perform?, Machine.perform, clearCells_words]
      rfl
  | scrollDown rows =>
      have inside := rows.isLt
      have word : 0x00C0 + rows.val = opcode.toNat := code
      have last : (lastDigit opcode).toNat = rows.val := by
        rw [toNat_lastDigit, ← word]
        omega
      have scrolled : scrollDown? machine.words.resolution machine.words.cells rows.val =
          some (machine.screen.scrollDown rows.val).grid.cells.toArray :=
        scrollDown?_eq _ _ _ (scroll_counted (Nat.le_of_lt inside)).1
      rw [perform?, last, scrolled, some_bind, withGrid_words, Machine.perform]
      rfl
  | scrollRight =>
      have scrolled : scrollRight? machine.words.resolution machine.words.cells 4 =
          some (machine.screen.scrollRight 4).grid.cells.toArray :=
        scrollRight?_eq _ _ _ (scroll_counted (by decide)).2
      rw [perform?, scrolled, some_bind, withGrid_words, Machine.perform]
      rfl
  | scrollLeft =>
      have scrolled : scrollLeft? machine.words.resolution machine.words.cells 4 =
          some (machine.screen.scrollLeft 4).grid.cells.toArray :=
        scrollLeft?_eq _ _ _ (scroll_counted (by decide)).2
      rw [perform?, scrolled, some_bind, withGrid_words, Machine.perform]
      rfl
  | exit => rfl
  | lowScreen => rfl
  | highScreen => rfl
  | jump target =>
      rw [perform?, parts_of_addressCode code]
      rfl
  | call target =>
      rw [perform?, parts_of_addressCode code]
      rfl
  | skip test =>
      rw [perform?, holds?_words machine code, some_bind, skipIf?_words, some_bind]
      rfl
  | setByte x byte =>
      obtain ⟨second, _, low⟩ := parts_of_byteCode code
      rw [perform?, setRegister?_words, second, low, some_bind]
      rfl
  | addByte x byte =>
      obtain ⟨second, _, low⟩ := parts_of_byteCode code
      rw [perform?, register?_words, some_bind, setRegister?_words, second, low, some_bind]
      rfl
  | combine operation x y =>
      obtain ⟨second, third, _⟩ := parts_of_registersCode code
      rw [perform?, combine?_words, second, third, some_bind]
      rfl
  | setIndex target =>
      rw [perform?, parts_of_addressCode code]
      rfl
  | jumpIndexed target =>
      rw [perform?, jumpIndexed?_words machine code, some_bind]
      rfl
  | random x mask =>
      obtain ⟨second, _, low⟩ := parts_of_byteCode code
      have set := setRegister?_words { machine with tape := machine.tape.next.2 }
        (secondDigit opcode) (machine.tape.next.1 &&& bytePart opcode)
      rw [perform?, Machine.perform, Machine.randomize]
      change (setRegister? { machine with tape := machine.tape.next.2 }.words _
        (machine.tape.next.1 &&& bytePart opcode) >>= _) = _
      rw [set, second, low]
      rfl
  | draw x y rows =>
      obtain ⟨second, third, last⟩ := parts_of_registersCode code
      have count : lastDigit opcode = UInt8.ofNat rows.val := by
        have small := rows.isLt
        apply UInt8.toNat_inj.mp
        rw [last, UInt8.toNat_ofNat', Nat.mod_eq_of_lt (by omega)]
      rw [perform?, register?_words, some_bind, register?_words, some_bind, second, third, count]
      exact drawOrWait?_words machine _
  | readDelay x =>
      obtain ⟨second, _, _⟩ := parts_of_byteCode code
      rw [perform?, setRegister?_words, second, some_bind]
      rfl
  | awaitKey x =>
      obtain ⟨second, _, _⟩ := parts_of_byteCode code
      rw [perform?, second]
      rfl
  | setDelay x =>
      obtain ⟨second, _, _⟩ := parts_of_byteCode code
      rw [perform?, register?_words, second, some_bind]
      rfl
  | setSound x =>
      obtain ⟨second, _, _⟩ := parts_of_byteCode code
      rw [perform?, register?_words, second, some_bind]
      rfl
  | addIndex x =>
      obtain ⟨second, _, _⟩ := parts_of_byteCode code
      rw [perform?, addIndex?_words, second, some_bind]
      rfl
  | smallDigit x =>
      obtain ⟨second, _, _⟩ := parts_of_byteCode code
      rw [perform?, glyph?_words machine _ (by decide), second, some_bind]
      rfl
  | bigDigit x =>
      obtain ⟨second, _, _⟩ := parts_of_byteCode code
      rw [perform?, glyph?_words machine _ (by decide), second, some_bind]
      rfl
  | decimal x =>
      obtain ⟨second, _, _⟩ := parts_of_byteCode code
      rw [perform?, decimal?_words, second, some_bind]
      rfl
  | store x =>
      obtain ⟨second, digit, _⟩ := parts_of_byteCode code
      have inside := x.isLt
      rw [perform?, digit, store?_words, some_bind, moveIndex?_words _ (by omega), second,
        some_bind]
      rfl
  | fetch x =>
      obtain ⟨second, digit, _⟩ := parts_of_byteCode code
      have inside := x.isLt
      rw [perform?, digit, fetch?_words, some_bind, moveIndex?_words _ (by omega), second,
        some_bind]
      rfl
  | saveFlags x =>
      obtain ⟨_, digit, _⟩ := parts_of_byteCode code
      rw [perform?, digit, addSize?_eq (register_counted x), some_bind]
      change (copyFirst? machine.registers.toArray machine.flags.toArray _ >>= _) = _
      rw [copyFirst?_toArray]
      rfl
  | restoreFlags x =>
      obtain ⟨_, digit, _⟩ := parts_of_byteCode code
      rw [perform?, digit, addSize?_eq (register_counted x), some_bind]
      change (copyFirst? machine.flags.toArray machine.registers.toArray _ >>= _) = _
      rw [copyFirst?_toArray]
      rfl

theorem step?_words (machine : Machine) :
    machine.words.step? = some (machine.step.1.words, machine.step.2) := by
  have read : Address.ofNat machine.pc.word.toNat = machine.pc := by
    rw [Address.toNat_word]
    exact Fin.ofNat_val_eq_self machine.pc
  have next : (machine.pc.word + 2) &&& addressMask = (machine.pc + 2).word :=
    mask_addAddress machine.pc 2
  rw [step?]
  change (machine.words.readWord? machine.pc.word >>= fun opcode =>
    addWord? machine.pc.word 2 >>= _) = _
  rw [readWord?_words, some_bind, addAddress?_eq machine.pc (by decide), some_bind, read, next,
    Machine.step]
  change (match Instruction.decode? machine.platform machine.nextWord with
    | none => _
    | some instruction => _) = _
  cases decoded : Instruction.decode? machine.platform machine.nextWord with
  | none =>
      have place : machine.words.pc.toNat = machine.pc.val := Address.toNat_word machine.pc
      simp only [place]
      rfl
  | some instruction =>
      have code : instruction.code = machine.nextWord.toNat :=
        Instruction.code_of_ofCode? (Option.filter_eq_some_iff.mp decoded).1
      have performed := perform?_words machine.advance code
      change (perform? machine.advance.words machine.nextWord instruction >>= _) = _
      rw [performed]
      rfl

end Words
end Chip8
