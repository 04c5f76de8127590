import Chip8.Proofs.Course
import Chip8.Proofs.Table

set_option autoImplicit false

/-!
What each word may change, down to single bytes and registers. The tables here go by the digits of
the word at the program counter; `step_confined` says that a step keeps to them. So a byte of
memory stays what the load has made it until an instruction writes to it (`byte_kept`).

Main statement: `effects_confined`.
-/

namespace Chip8

/-- The words of the family F that end in a byte. -/
def IsTransfer (code low : Nat) : Prop :=
  code / 0x1000 = 0xF ∧ code % 0x100 = low

instance (code low : Nat) : Decidable (IsTransfer code low) :=
  inferInstanceAs (Decidable (_ ∧ _))

/-- The words that put something into a register: 6xkk, 7xkk, 8xyn, Cxkk and Fx07 into Vx; Fx65 and
Fx85 into V0 to Vx; and into VF 8xy1 to 8xy3 if they clear it, 8xy4 to 8xy7, 8xyE, a Dxyn that draws
at once, and Fx1E if it tells there whether the sum leaves memory. -/
def SetsRegister (dialect : Dialect) (code : Nat) (r : Register) : Prop :=
  let x := Instruction.digit code 0x100
  (r = x ∧ (code / 0x1000 ∈ [0x6, 0x7, 0x8, 0xC] ∨ IsTransfer code 0x07)) ∨
    (r ≤ x ∧ (IsTransfer code 0x65 ∨ IsTransfer code 0x85)) ∨
      r = flagRegister ∧
        ((code / 0x1000 = 0x8 ∧ code % 0x10 ∈ [0x1, 0x2, 0x3] ∧ dialect.logicClearsFlag = true) ∨
          (code / 0x1000 = 0x8 ∧ code % 0x10 ∈ [0x4, 0x5, 0x6, 0x7, 0xE]) ∨
            (code / 0x1000 = 0xD ∧ dialect.drawAwaitsRefresh = false) ∨
              IsTransfer code 0x1E ∧ dialect.indexSetsFlag = true)

/-- The words under which a part of a machine may change. The keypad, the platform and the dialect
stay under all words. -/
def Part.ChangesUnder (dialect : Dialect) (code : Nat) : Part → Prop
  | .memory => IsTransfer code 0x33 ∨ IsTransfer code 0x55
  | .screen =>
      code ∈ [0x00E0, 0x0230, 0x00FB, 0x00FC, 0x00FE, 0x00FF] ∨ code / 0x10 = 0x00C ∨
        code / 0x1000 = 0xD ∧ dialect.drawAwaitsRefresh = false
  | .timers => IsTransfer code 0x15 ∨ IsTransfer code 0x18
  | .keypad | .platform | .dialect => False
  | .registers => ∃ r, SetsRegister dialect code r
  | .index =>
      code / 0x1000 = 0xA ∨ IsTransfer code 0x1E ∨ IsTransfer code 0x29 ∨ IsTransfer code 0x30 ∨
        IsTransfer code 0x55 ∨ IsTransfer code 0x65
  | .pc => True
  | .stack => code / 0x1000 = 0x2 ∨ code = 0x00EE
  | .flags => IsTransfer code 0x75
  | .tone => IsTransfer code 0x18
  | .tape => code / 0x1000 = 0xC

/-- The words that go on elsewhere: 1nnn, 2nnn, Bnnn and 00EE. -/
def Leaves (code : Nat) : Prop :=
  code / 0x1000 ∈ [0x1, 0x2, 0xB] ∨ code = 0x00EE

namespace Machine

/-- A user flag. -/
def flag (machine : Machine) (r : Register) : UInt8 :=
  machine.flags.get r

/-- How many bytes the next word writes at I: three under Fx33, and under Fx55 one for each of
V0 to Vx. -/
def spread (machine : Machine) : Nat :=
  if IsTransfer machine.nextCode 0x33 then 3
  else if IsTransfer machine.nextCode 0x55 then machine.nextX.val + 1
  else 0

theorem spread_le (machine : Machine) : machine.spread ≤ 16 := by
  have small := machine.nextX.isLt
  unfold spread
  split
  · decide
  · split <;> omega

/-- The next word writes to an address. -/
def Targets (machine : Machine) (address : Address) : Prop :=
  ∃ offset < machine.spread, address = Address.ofNat (machine.index.val + offset)

theorem targets_iff (machine : Machine) (address : Address) :
    machine.Targets address ↔ (address - machine.index).val < machine.spread := by
  constructor
  · rintro ⟨offset, inside, rfl⟩
    have few := machine.spread_le
    rw [Address.val_ofNat_sub machine.index (by omega)]
    exact inside
  · intro inside
    exact ⟨_, inside, (Address.ofNat_val_sub machine.index address).symm⟩

instance (machine : Machine) (address : Address) : Decidable (machine.Targets address) :=
  decidable_of_iff' _ (machine.targets_iff address)

/-- The next word leaves out the one behind it: 3xkk, 4xkk, 5xy0, 9xy0, Ex9E or ExA1, and its test
holds. -/
def skipsNext (machine : Machine) : Bool :=
  let code := machine.nextCode
  let vx := machine.register machine.nextX
  let vy := machine.register (Instruction.digit code 0x10)
  match code / 0x1000 with
  | 0x3 => vx.toNat == code % 0x100
  | 0x4 => vx.toNat != code % 0x100
  | 0x5 => vx == vy
  | 0x9 => vx != vy
  | 0xE => machine.keypad.isDown (Key.ofLowBits vx) == (code % 0x100 == 0x9E)
  | _ => false

/-- What a step keeps of a machine and what it makes of the rest. -/
structure Confined (machine later : Machine) : Prop where
  parts : ∀ part : Part, ¬ part.ChangesUnder machine.dialect machine.nextCode →
    later.SameIn machine part
  bytes : ∀ address, ¬ machine.Targets address →
    later.memory.read address = machine.memory.read address
  digits : IsTransfer machine.nextCode 0x33 →
    let vx := (machine.register machine.nextX).toNat
    (later.memory.read machine.index).toNat = vx / 100 ∧
      (later.memory.read (Address.ofNat (machine.index.val + 1))).toNat = vx / 10 % 10 ∧
        (later.memory.read (Address.ofNat (machine.index.val + 2))).toNat = vx % 10
  flags : ∀ r : Register, ¬ (IsTransfer machine.nextCode 0x75 ∧ r ≤ machine.nextX) →
    later.flag r = machine.flag r
  registers : ∀ r, ¬ SetsRegister machine.dialect machine.nextCode r →
    later.register r = machine.register r
  pc : ¬ Leaves machine.nextCode →
    later.pc = Address.ofNat (machine.pc.val + if machine.skipsNext then 4 else 2)

/-! ### Registers -/

theorem register_eq (machine : Machine) (r : Register) :
    machine.register r = machine.registers.get r := rfl

theorem get_replaceFirst (registers : Registers) (values : List UInt8) (r : Register) :
    (replaceFirst registers values).get r = values[r.val]?.getD (registers.get r) := by
  change (replaceFirst registers values)[r.val] = _
  rw [replaceFirst, Vector.getElem_ofFn]
  rfl

theorem get_replaceFirst_beyond (registers : Registers) {values : List UInt8} {r : Register}
    (beyond : values.length ≤ r.val) : (replaceFirst registers values).get r = registers.get r := by
  rw [get_replaceFirst, List.getElem?_eq_none beyond, Option.getD_none]

theorem registers_moveIndex (machine : Machine) (x : Register) :
    (machine.moveIndex x).registers = machine.registers := by
  rw [moveIndex_eq]

theorem length_registersUpTo (machine : Machine) (x : Register) :
    (machine.registersUpTo x).length = x.val + 1 := by
  rw [registersUpTo, List.length_take, Vector.length_toList]
  omega

end Machine

namespace Instruction

variable {dialect : Dialect} {family : Nat} {x y r : Register} {byte : UInt8}

theorem isTransfer_byteCode (x : Register) (byte : UInt8) :
    IsTransfer (byteCode 0xF x byte) byte.toNat :=
  ⟨(byteCode_parts 0xF x byte).1, (byteCode_parts 0xF x byte).2.2.2⟩

theorem setsRegister_byte (dialect : Dialect) (x : Register) (byte : UInt8)
    (listed : family ∈ [0x6, 0x7, 0x8, 0xC]) :
    SetsRegister dialect (byteCode family x byte) x := by
  obtain ⟨high, destination, -, -⟩ := byteCode_parts family x byte
  refine .inl ⟨destination.symm, .inl ?_⟩
  rw [high]
  exact listed

theorem setsRegister_readDelay (dialect : Dialect) (x : Register) :
    SetsRegister dialect (byteCode 0xF x 0x07) x :=
  .inl ⟨(byteCode_parts 0xF x 0x07).2.1.symm, .inr (isTransfer_byteCode x 0x07)⟩

theorem setsRegister_range (dialect : Dialect) (within : r ≤ x)
    (listed : byte = 0x65 ∨ byte = 0x85) : SetsRegister dialect (byteCode 0xF x byte) r := by
  obtain ⟨-, last, -, -⟩ := byteCode_parts 0xF x byte
  refine .inr (.inl ⟨?_, ?_⟩)
  · rw [last]
    exact within
  · rcases listed with rfl | rfl
    · exact .inl (isTransfer_byteCode x 0x65)
    · exact .inr (isTransfer_byteCode x 0x85)

theorem setsRegister_combine (dialect : Dialect) (operation : Operation) (x y : Register) :
    SetsRegister dialect (registersCode 0x8 x y operation.code) x := by
  obtain ⟨high, destination, -, -, -⟩ := registersCode_parts 0x8 x y operation.code
  refine .inl ⟨destination.symm, .inl ?_⟩
  rw [high]
  decide

/-- An operation that tells VF something has a word under which VF may change. -/
theorem setsRegister_flag {operation : Operation} {vx vy value : UInt8}
    (told : (operation.apply dialect vx vy).2 = some value) :
    SetsRegister dialect (registersCode 0x8 x y operation.code) flagRegister := by
  obtain ⟨high, -, -, -, last⟩ := registersCode_parts 0x8 x y operation.code
  refine .inr (.inr ⟨rfl, ?_⟩)
  cases operation with
  | assign => cases told
  | or | and | xor =>
      have clears : dialect.logicClearsFlag = true := by
        by_contra keeps
        simp only [Operation.apply, if_neg keeps] at told
        cases told
      refine .inl ⟨high, ?_, clears⟩
      rw [last]
      decide
  | add | subtract | shiftRight | subtractFrom | shiftLeft =>
      refine .inr (.inl ⟨high, ?_⟩)
      rw [last]
      decide

theorem setsRegister_draw (x y : Register) (rows : Fin 16)
    (atOnce : dialect.drawAwaitsRefresh = false) :
    SetsRegister dialect (registersCode 0xD x y rows) flagRegister :=
  .inr (.inr ⟨rfl, .inr (.inr (.inl ⟨(registersCode_parts 0xD x y rows).1, atOnce⟩))⟩)

theorem setsRegister_addIndex (x : Register) (tells : dialect.indexSetsFlag = true) :
    SetsRegister dialect (byteCode 0xF x 0x1E) flagRegister :=
  .inr (.inr ⟨rfl, .inr (.inr (.inr ⟨isTransfer_byteCode x 0x1E, tells⟩))⟩)

end Instruction

namespace Machine

variable {machine : Machine}

theorem register_combine {operation : Operation} {x y r : Register}
    (kept : ¬ SetsRegister machine.dialect (registersCode 0x8 x y operation.code) r) :
    (machine.combine operation x y).register r = machine.register r := by
  have other : r ≠ x := by
    rintro rfl
    exact kept (Instruction.setsRegister_combine _ operation r y)
  unfold combine
  rcases applied : operation.apply machine.dialect (machine.register x) (machine.register y) with
    ⟨result, none | flag⟩
  · exact register_setRegister_other machine result other
  · have notFlag : r ≠ flagRegister := by
      rintro rfl
      exact kept (Instruction.setsRegister_flag (congrArg Prod.snd applied))
    exact (register_setRegister_other _ flag notFlag).trans
      (register_setRegister_other machine result other)

/-- A register that an instruction's word does not set keeps its value. -/
theorem register_perform (machine : Machine) {instruction : Instruction} {r : Register}
    (kept : ¬ SetsRegister machine.dialect instruction.code r) :
    (machine.perform instruction).1.register r = machine.register r := by
  have untouched (unlisted : Part.registers ∉ instruction.changes) :
      (machine.perform instruction).1.register r = machine.register r := by
    have same : (machine.perform instruction).1.registers = machine.registers :=
      machine.perform_sameBut instruction .registers unlisted
    rw [register, same, register]
  cases instruction with
  | setByte x byte =>
      apply register_setRegister_other
      rintro rfl
      exact kept (Instruction.setsRegister_byte _ r byte (by decide))
  | addByte x byte =>
      apply register_setRegister_other
      rintro rfl
      exact kept (Instruction.setsRegister_byte _ r byte (by decide))
  | random x mask =>
      refine (register_setRegister_other _ _ ?_).trans rfl
      rintro rfl
      exact kept (Instruction.setsRegister_byte _ r mask (by decide))
  | readDelay x =>
      apply register_setRegister_other
      rintro rfl
      exact kept (Instruction.setsRegister_readDelay _ r)
  | combine operation x y => exact register_combine kept
  | draw x y rows =>
      cases late : machine.dialect.drawAwaitsRefresh with
      | true => rw [perform, drawOrWait, if_pos late]
      | false =>
          rw [perform, drawOrWait, if_neg (by rw [late]; decide)]
          refine (register_setRegister_other _ _ ?_).trans rfl
          rintro rfl
          exact kept (Instruction.setsRegister_draw x y rows late)
  | addIndex x =>
      cases tells : machine.dialect.indexSetsFlag with
      | true =>
          rw [perform, addIndex, if_pos tells]
          refine (register_setRegister_other _ _ ?_).trans rfl
          rintro rfl
          exact kept (Instruction.setsRegister_addIndex x tells)
      | false =>
          rw [perform, addIndex, if_neg (by rw [tells]; decide)]
          rfl
  | fetch x =>
      have beyond : x.val < r.val := by
        by_contra within
        exact kept (Instruction.setsRegister_range _ (Fin.le_def.mpr (by omega)) (.inl rfl))
      rw [perform, fetchRegisters, register, registers_moveIndex]
      apply get_replaceFirst_beyond
      rw [Memory.readAll, List.length_map, List.length_range]
      exact beyond
  | restoreFlags x =>
      have beyond : x.val < r.val := by
        by_contra within
        exact kept (Instruction.setsRegister_range _ (Fin.le_def.mpr (by omega)) (.inr rfl))
      rw [register_eq, register_eq]
      apply get_replaceFirst_beyond
      rw [List.length_take]
      omega
  | clear | ret | tallScreen | scrollDown | scrollRight | scrollLeft | exit | lowScreen
  | highScreen | jump | call | skip | setIndex | jumpIndexed | awaitKey | setDelay | setSound
  | smallDigit | bigDigit | decimal | store | saveFlags =>
      exact untouched (by simp [Instruction.changes])

end Machine

/-! ### Parts -/

namespace Instruction

/-- What an instruction lists it lists with good reason: its word is one under which the part may
change. Registers are told one by one, and a draw may wait. -/
theorem changesUnder_of_mem (dialect : Dialect) {instruction : Instruction} {part : Part}
    (listed : part ∈ instruction.changes) (notRegisters : part ≠ .registers)
    (noDraw : ∀ x y rows, instruction ≠ .draw x y rows) :
    part.ChangesUnder dialect instruction.code := by
  cases instruction with
  | exit | awaitKey x => cases listed
  | clear | tallScreen | scrollRight | scrollLeft | lowScreen | highScreen =>
      rw [List.mem_singleton.mp listed]
      exact .inl (by decide)
  | scrollDown rows =>
      have scroll : (0x00C0 + rows.val) / 0x10 = 0x00C := by omega
      rw [List.mem_singleton.mp listed]
      exact .inr (.inl scroll)
  | draw x y rows => exact absurd rfl (noDraw x y rows)
  | jump target | jumpIndexed target | skip test =>
      rw [List.mem_singleton.mp listed]
      trivial
  | ret =>
      rcases List.mem_pair.mp listed with rfl | rfl
      · trivial
      · exact .inr rfl
  | call target =>
      rcases List.mem_pair.mp listed with rfl | rfl
      · trivial
      · exact .inl (addressCode_parts 0x2 target).1
  | setByte | addByte | combine | readDelay | restoreFlags =>
      exact absurd (List.mem_singleton.mp listed) notRegisters
  | random x mask =>
      rw [(List.mem_pair.mp listed).resolve_left notRegisters]
      exact (byteCode_parts 0xC x mask).1
  | setIndex target =>
      rw [List.mem_singleton.mp listed]
      exact .inl (addressCode_parts 0xA target).1
  | addIndex x =>
      rw [(List.mem_pair.mp listed).resolve_left notRegisters]
      exact .inr (.inl (isTransfer_byteCode x 0x1E))
  | smallDigit x =>
      rw [List.mem_singleton.mp listed]
      exact .inr (.inr (.inl (isTransfer_byteCode x 0x29)))
  | bigDigit x =>
      rw [List.mem_singleton.mp listed]
      exact .inr (.inr (.inr (.inl (isTransfer_byteCode x 0x30))))
  | store x =>
      rcases List.mem_pair.mp listed with rfl | rfl
      · exact .inr (isTransfer_byteCode x 0x55)
      · exact .inr (.inr (.inr (.inr (.inl (isTransfer_byteCode x 0x55)))))
  | fetch x =>
      rw [(List.mem_pair.mp listed).resolve_left notRegisters]
      exact .inr (.inr (.inr (.inr (.inr (isTransfer_byteCode x 0x65)))))
  | setDelay x =>
      rw [List.mem_singleton.mp listed]
      exact .inl (isTransfer_byteCode x 0x15)
  | setSound x =>
      rcases List.mem_pair.mp listed with rfl | rfl
      · exact .inr (isTransfer_byteCode x 0x18)
      · exact isTransfer_byteCode x 0x18
  | decimal x =>
      rw [List.mem_singleton.mp listed]
      exact .inl (isTransfer_byteCode x 0x33)
  | saveFlags x =>
      rw [List.mem_singleton.mp listed]
      exact isTransfer_byteCode x 0x75

end Instruction

namespace Machine

variable {machine : Machine}

theorem perform_draw_sameIn {x y : Register} {rows : Fin 16} {part : Part}
    (notRegisters : part ≠ .registers)
    (kept : ¬ part.ChangesUnder machine.dialect (Instruction.draw x y rows).code) :
    (machine.perform (.draw x y rows)).1.SameIn machine part := by
  cases late : machine.dialect.drawAwaitsRefresh with
  | true =>
      rw [perform, drawOrWait, if_pos late]
      cases part <;> rfl
  | false =>
      apply machine.perform_sameBut
      intro listed
      rcases List.mem_pair.mp listed with rfl | registers
      · exact kept (.inr (.inr ⟨(Instruction.registersCode_parts 0xD x y rows).1, late⟩))
      · exact notRegisters registers

/-- A part that may not change under an instruction's word stays as it is. -/
theorem perform_sameIn (machine : Machine) {instruction : Instruction} (part : Part)
    (kept : ¬ part.ChangesUnder machine.dialect instruction.code) :
    (machine.perform instruction).1.SameIn machine part := by
  by_cases registers : part = .registers
  · subst registers
    apply Vector.ext
    intro place inside
    exact machine.register_perform (r := ⟨place, inside⟩) fun sets => kept ⟨_, sets⟩
  · cases instruction with
    | draw x y rows => exact perform_draw_sameIn registers kept
    | _ =>
      apply machine.perform_sameBut
      intro listed
      exact kept (Instruction.changesUnder_of_mem _ listed registers nofun)

/-! ### The next word -/

theorem nextCode_of_instruction? {instruction : Instruction}
    (next : machine.instruction? = some instruction) : machine.nextCode = instruction.code := by
  rw [← toNat_nextWord]
  exact (machine.instruction?_eq_some_iff.mp next).1.symm

end Machine

theorem Instruction.eq_of_code {left right : Instruction} (same : left.code = right.code) :
    left = right := by
  have read := ofCode?_code left
  rw [same, ofCode?_code right] at read
  exact (Option.some.inj read).symm

/-- The words of the family F that end in the same byte are words of one kind of instruction. -/
theorem Instruction.eq_of_isTransfer {instruction : Instruction} (low : UInt8)
    (other : Register → Instruction) (codes : ∀ x, (other x).code = byteCode 0xF x low)
    (transfer : IsTransfer instruction.code low.toNat) :
    instruction = other (digit instruction.code 0x100) := by
  apply eq_of_code
  rw [codes]
  exact (byteCode_of_low transfer.1 transfer.2).symm

/-! ### Bytes -/

namespace Machine

variable {machine : Machine}

theorem spread_of_decimal {x : Register} (next : machine.instruction? = some (.decimal x)) :
    machine.spread = 3 := by
  unfold spread
  rw [nextCode_of_instruction? next]
  exact if_pos (Instruction.isTransfer_byteCode x 0x33)

theorem spread_of_store {x : Register} (next : machine.instruction? = some (.store x)) :
    machine.spread = x.val + 1 := by
  have noDecimal : ¬ IsTransfer (Instruction.store x).code 0x33 := by
    intro decimal
    cases Instruction.eq_of_isTransfer 0x33 .decimal (fun _ => rfl) decimal
  have last : Instruction.digit (Instruction.store x).code 0x100 = x :=
    (Instruction.byteCode_parts 0xF x 0x55).2.1
  unfold spread nextX
  rw [nextCode_of_instruction? next, if_neg noDecimal, last]
  exact if_pos (Instruction.isTransfer_byteCode x 0x55)

theorem spread_of_unlisted {instruction : Instruction}
    (next : machine.instruction? = some instruction)
    (unlisted : Part.memory ∉ instruction.changes) : machine.spread = 0 := by
  have noDecimal : ¬ IsTransfer instruction.code 0x33 := by
    intro decimal
    rw [Instruction.eq_of_isTransfer 0x33 .decimal (fun _ => rfl) decimal] at unlisted
    exact unlisted List.mem_cons_self
  have noStore : ¬ IsTransfer instruction.code 0x55 := by
    intro store
    rw [Instruction.eq_of_isTransfer 0x55 .store (fun _ => rfl) store] at unlisted
    exact unlisted List.mem_cons_self
  unfold spread
  rw [nextCode_of_instruction? next, if_neg noDecimal, if_neg noStore]

theorem memory_storeRegisters (machine : Machine) (x : Register) :
    (machine.storeRegisters x).memory =
      machine.memory.writeAll machine.index (machine.registersUpTo x) := by
  rw [storeRegisters, moveIndex_eq]

/-- A step writes its bytes at I, and as many as its word says. -/
theorem memory_perform {instruction : Instruction}
    (next : machine.instruction? = some instruction) :
    ∃ values : List UInt8, values.length = machine.spread ∧
      (machine.advance.perform instruction).1.memory =
        machine.memory.writeAll machine.index values := by
  by_cases listed : Part.memory ∈ instruction.changes
  · cases instruction with
    | decimal x =>
        refine ⟨decimalDigits (machine.register x), ?_, rfl⟩
        rw [spread_of_decimal next]
        rfl
    | store x =>
        refine ⟨machine.registersUpTo x, ?_, memory_storeRegisters machine.advance x⟩
        rw [spread_of_store next, length_registersUpTo]
    | _ => simp [Instruction.changes] at listed
  · refine ⟨[], (spread_of_unlisted next listed).symm, ?_⟩
    exact machine.advance.perform_sameBut instruction .memory listed

theorem read_perform {instruction : Instruction} {address : Address}
    (next : machine.instruction? = some instruction) (kept : ¬ machine.Targets address) :
    (machine.advance.perform instruction).1.memory.read address =
      machine.memory.read address := by
  obtain ⟨values, many, written⟩ := memory_perform next
  have few := machine.spread_le
  rw [written]
  apply Memory.read_writeAll_beyond _ (by omega)
  intro offset inside same
  exact kept ⟨offset, by omega, same⟩

theorem digits_perform {x : Register} (machine : Machine) :
    let later := (machine.perform (.decimal x)).1
    let vx := (machine.register x).toNat
    (later.memory.read machine.index).toNat = vx / 100 ∧
      (later.memory.read (Address.ofNat (machine.index.val + 1))).toNat = vx / 10 % 10 ∧
        (later.memory.read (Address.ofNat (machine.index.val + 2))).toNat = vx % 10 := by
  intro later vx
  have fits : (decimalDigits (machine.register x)).length ≤ 4096 := by
    change 3 ≤ 4096
    decide
  have digit (offset : Nat) (inside : offset < (decimalDigits (machine.register x)).length) :
      later.memory.read (Address.ofNat (machine.index.val + offset)) =
        (decimalDigits (machine.register x))[offset] :=
    Memory.read_writeAll_at _ _ fits inside
  have first : Address.ofNat (machine.index.val + 0) = machine.index := by
    apply Fin.ext
    rw [Address.val_ofNat]
    omega
  refine ⟨?_, ?_, ?_⟩
  · rw [← first, digit 0 (by change 0 < 3; decide)]
    rfl
  · rw [digit 1 (by change 1 < 3; decide)]
    rfl
  · rw [digit 2 (by change 2 < 3; decide)]
    rfl

/-! ### Flags and the program counter -/

theorem flag_congr {left right : Machine} (same : left.flags = right.flags) (r : Register) :
    left.flag r = right.flag r := by
  rw [flag, same, flag]

theorem flag_perform {instruction : Instruction} {r : Register}
    (kept : ¬ (IsTransfer instruction.code 0x75 ∧ r ≤ Instruction.digit instruction.code 0x100)) :
    (machine.perform instruction).1.flag r = machine.flag r := by
  by_cases saves : IsTransfer instruction.code 0x75
  · have isSave := Instruction.eq_of_isTransfer 0x75 .saveFlags (fun _ => rfl) saves
    have beyond : (Instruction.digit instruction.code 0x100).val < r.val := by
      by_contra within
      exact kept ⟨saves, Fin.le_def.mpr (by omega)⟩
    rw [isSave]
    apply get_replaceFirst_beyond
    rw [length_registersUpTo]
    exact beyond
  · exact flag_congr (machine.perform_sameIn .flags saves) r

theorem beq_low (value : UInt8) (code : Nat) :
    (value.toNat == code % 0x100) = (value == UInt8.ofNat code) := by
  rw [Bool.eq_iff_iff, beq_iff_eq, beq_iff_eq, ← UInt8.toNat_inj, UInt8.toNat_ofNat']

/-- An instruction is a test that holds. -/
def skips (machine : Machine) : Instruction → Bool
  | .skip test => machine.holds test
  | _ => false

theorem skipsNext_eq {instruction : Instruction}
    (next : machine.instruction? = some instruction) :
    machine.skipsNext = machine.skips instruction := by
  have word := nextCode_of_instruction? next
  have found : Instruction.ofCode? machine.nextCode = some instruction :=
    Instruction.ofCode?_eq_some_iff.mpr word.symm
  unfold skipsNext nextX
  dsimp only
  split
  case h_1 high =>
    simp only [Instruction.ofCode?, high] at found
    cases found
    exact beq_low _ _
  case h_2 high =>
    simp only [Instruction.ofCode?, high] at found
    cases found
    exact congrArg not (beq_low _ _)
  case h_3 high =>
    simp only [Instruction.ofCode?, high] at found
    split at found <;> cases found
    rfl
  case h_4 high =>
    simp only [Instruction.ofCode?, high] at found
    split at found <;> cases found
    rfl
  case h_5 high =>
    simp only [Instruction.ofCode?, high, Instruction.ofKeyCode?] at found
    split at found
    case h_1 low =>
      cases found
      rw [low]
      exact beq_true _
    case h_2 low =>
      cases found
      rw [low]
      exact beq_false _
    case h_3 => cases found
  case h_6 noByte noOther noEqual noDifferent noKey =>
    rw [word] at noByte noOther noEqual noDifferent noKey
    cases instruction with
    | skip test =>
        exfalso
        cases test with
        | isByte x byte => exact noByte (Instruction.byteCode_parts 0x3 x byte).1
        | isNotByte x byte => exact noOther (Instruction.byteCode_parts 0x4 x byte).1
        | isEqual x y => exact noEqual (Instruction.registersCode_parts 0x5 x y 0).1
        | isDifferent x y => exact noDifferent (Instruction.registersCode_parts 0x9 x y 0).1
        | keyDown x => exact noKey (Instruction.byteCode_parts 0xE x 0x9E).1
        | keyUp x => exact noKey (Instruction.byteCode_parts 0xE x 0xA1).1
    | _ => rfl

theorem leaves_of_family {code family : Nat} (high : code / 0x1000 = family)
    (listed : family ∈ [0x1, 0x2, 0xB]) : Leaves code := by
  rw [← high] at listed
  exact .inl listed

/-- A word that does not go on elsewhere goes on behind itself, or behind the word that it leaves
out. -/
theorem pc_perform {instruction : Instruction} (next : machine.instruction? = some instruction)
    (stays : ¬ Leaves instruction.code) :
    (machine.advance.perform instruction).1.pc =
      Address.ofNat (machine.pc.val + if machine.skipsNext then 4 else 2) := by
  have behind : machine.advance.pc = Address.ofNat (machine.pc.val + 2) := Fin.ext rfl
  have unmoved (instruction : Instruction) (unlisted : Part.pc ∉ instruction.changes) :
      (machine.advance.perform instruction).1.pc = Address.ofNat (machine.pc.val + 2) :=
    Eq.trans (machine.advance.perform_sameBut instruction .pc unlisted) behind
  rw [skipsNext_eq next]
  cases instruction with
  | ret => exact absurd (.inr rfl) stays
  | jump target =>
      exact absurd (leaves_of_family (Instruction.addressCode_parts 0x1 target).1 (by decide)) stays
  | call target =>
      exact absurd (leaves_of_family (Instruction.addressCode_parts 0x2 target).1 (by decide)) stays
  | jumpIndexed target =>
      exact absurd (leaves_of_family (Instruction.addressCode_parts 0xB target).1 (by decide)) stays
  | skip test =>
      have sameTest : machine.advance.holds test = machine.holds test := by
        cases test <;> rfl
      rw [perform, skips, sameTest]
      cases machine.holds test with
      | true =>
          apply Fin.ext
          change ((machine.pc.val + 2) % 4096 + 2) % 4096 = (machine.pc.val + 4) % 4096
          omega
      | false => exact behind
  | _ => exact unmoved _ (by simp [Instruction.changes])

/-! ### Steps -/

theorem step_confined {later : Machine} {outcome : Outcome}
    (step : machine.step = (later, .ok outcome)) : machine.Confined later := by
  obtain ⟨instruction, next, performed⟩ := perform_of_step step
  have word := nextCode_of_instruction? next
  have result : (machine.advance.perform instruction).1 = later := congrArg Prod.fst performed
  subst result
  refine ⟨?_, ?_, ?_, ?_, ?_, ?_⟩
  · intro part kept
    rw [word] at kept
    have advanced : machine.advance.SameIn machine part := by
      cases part <;> first | rfl | exact absurd trivial kept
    exact (machine.advance.perform_sameIn part kept).trans advanced
  · intro address kept
    exact read_perform next kept
  · intro decimal
    unfold nextX
    rw [word] at decimal ⊢
    have isDecimal := Instruction.eq_of_isTransfer 0x33 .decimal (fun _ => rfl) decimal
    generalize Instruction.digit instruction.code 0x100 = x at isDecimal ⊢
    rw [isDecimal]
    exact digits_perform machine.advance
  · intro r kept
    unfold nextX at kept
    rw [word] at kept
    exact flag_perform kept
  · intro r kept
    rw [word] at kept
    exact machine.advance.register_perform kept
  · intro stays
    rw [word] at stays
    exact pc_perform next stays

end Machine

/-! ### What a load leaves -/

namespace Memory

/-- The byte at an address behind a load: the fonts lie below the program, and what neither they
nor the program take up is zero. -/
def loadedByte (image : List UInt8) (address : Address) : UInt8 :=
  if address.val < Font.bigStart then Font.small.getD address.val 0
  else if address.val < programStart.val then Font.big.getD (address.val - Font.bigStart) 0
  else image.getD (address.val - programStart.val) 0

theorem length_big : Font.big.length = 0xA0 := by
  decide +kernel

theorem read_blank (address : Address) :
    blank.read address =
      if address.val < Font.bigStart then Font.small.getD address.val 0
      else Font.big.getD (address.val - Font.bigStart) 0 := by
  have empty : (⟨Vector.replicate 4096 0⟩ : Memory).read address = 0 := by
    simp [read]
  have fits : Font.bigStart + Font.big.length ≤ 4096 := by
    rw [length_big]
    decide
  have fromStart : Font.smallStart ≤ address.val := Nat.zero_le _
  rw [blank, read_writeAll_block _ fits, read_writeAll_block _ (by decide), empty,
    if_pos fromStart]
  by_cases low : address.val < Font.bigStart
  · rw [if_pos low, if_neg (by omega)]
    exact (List.getD_eq_getElem?_getD ..).symm
  · have beyond : Font.small.length ≤ address.val - Font.smallStart := Nat.le_of_not_lt low
    rw [if_neg low, if_pos (by omega), List.getElem?_eq_none beyond]
    exact (List.getD_eq_getElem?_getD ..).symm

theorem read_load {source : ProgramSource} {length : Nat}
    (loaded : (blank.load source).2 = .ok length) (address : Address) :
    (blank.load source).1.read address = loadedByte source.bytes address := by
  rcases source with ⟨image, failure⟩
  cases failure with
  | some text => cases loaded
  | none =>
      change (blank.loadImage image).2 = _ at loaded
      change (blank.loadImage image).1.read address = _
      unfold loadImage at loaded ⊢
      cases refused : refusal? image with
      | some fault =>
          rw [refused] at loaded
          cases loaded
      | none =>
          have fits := ((refusal?_eq_none_iff image).mp refused).2
          have inside : 0x200 + image.length ≤ 4096 := by
            unfold programCapacity at fits
            omega
          have written := read_writeAll_block blank inside address
          refine written.trans ?_
          rw [read_blank, loadedByte]
          change _ = if address.val < Font.bigStart then _ else if address.val < 0x200 then _ else _
          by_cases behind : 0x200 ≤ address.val
          · have noFont : ¬ address.val < Font.bigStart := by
              change ¬ address.val < 0x50
              omega
            have noBig : Font.big.length ≤ address.val - Font.bigStart := by
              rw [length_big]
              change 0xA0 ≤ address.val - 0x50
              omega
            rw [if_pos behind, if_neg noFont, if_neg noFont, if_neg (by omega),
              List.getD_eq_getElem?_getD, List.getElem?_eq_none noBig]
            exact (List.getD_eq_getElem?_getD ..).symm
          · rw [if_neg behind, if_pos (by omega : address.val < 0x200)]

end Memory

/-! ### Whole runs -/

namespace Machine

theorem read_step {machine : Machine} {address : Address} (kept : ¬ machine.Targets address) :
    machine.step.1.memory.read address = machine.memory.read address := by
  cases next : machine.instruction? with
  | none => rw [step_of_no_instruction next]
  | some instruction =>
      rw [step_of_instruction next]
      exact read_perform next kept

theorem memory_load {machine : Machine} {source : ProgramSource} {length : Nat}
    (loaded : (machine.memory.load source).2 = .ok length) :
    (machine.load source).1.memory = (machine.memory.load source).1 := by
  unfold load
  rcases result : machine.memory.load source with ⟨memory, fault | size⟩
  · rw [result] at loaded
    cases loaded
  · exact memory_prepared _

end Machine

theorem Moment.read_after {moment : Moment} {address : Address}
    (kept : moment.isStep = true → ¬ moment.found.machine.Targets address) :
    moment.after.machine.memory.read address = moment.found.machine.memory.read address := by
  cases isStep : moment.isStep with
  | false =>
      have same : moment.after.machine.memory = moment.found.machine.memory :=
        sameBut_after_of_noStep isStep .memory (by decide)
      rw [same]
  | true =>
      have same : moment.after.machine.memory = moment.found.machine.step.1.memory :=
        sameIn_step_after isStep .memory (by decide)
      rw [same]
      exact Machine.read_step (kept isStep)

/-- A byte that no instruction of a run writes to stays as it is. -/
theorem Course.byte_kept (course : Course) (events : List Event) {address : Address}
    (never : ∀ moment ∈ course.moments events, moment.isStep = true →
      ¬ moment.found.machine.Targets address) :
    (course.follow events).machine.memory.read address = course.machine.memory.read address := by
  have kept : ∀ moment ∈ course.moments events,
      moment.found.machine.memory.read address = course.machine.memory.read address →
      moment.after.machine.memory.read address = course.machine.memory.read address :=
    fun moment member before => (Moment.read_after (never moment member)).trans before
  exact ((course.unfolds events).keeps
    (fun run => run.machine.memory.read address = course.machine.memory.read address) kept rfl).2

/-- Every instruction keeps to what its word may change. So in any run of a loaded program, a byte
that no Fx33 and no Fx55 has written to is the one that the load has left there. -/
theorem effects_confined :
    (∀ (machine later : Machine) (outcome : Outcome), machine.step = (later, .ok outcome) →
      machine.Confined later) ∧
    ∀ (rate : UInt32) (profile : Profile) (filter : Filter) (tape : Tape) (source : ProgramSource)
      (length : Nat) (events : List Event) (address : Address),
      ((Machine.ofProfile profile filter tape).load source).2 = .ok length →
      let course := Course.boot rate profile filter tape source
      (∀ moment ∈ course.moments events, moment.isStep = true →
        ¬ moment.found.machine.Targets address) →
      (course.follow events).machine.memory.read address =
        Memory.loadedByte source.bytes address := by
  refine ⟨fun machine later outcome step => Machine.step_confined step, ?_⟩
  intro rate profile filter tape source length events address loaded course never
  rw [course.byte_kept events never]
  rw [Machine.result_load] at loaded
  have memory : course.machine.memory = (Memory.blank.load source).1 :=
    Machine.memory_load loaded
  rw [memory]
  exact Memory.read_load loaded address

/-- It writes over the first byte of its fourth instruction. -/
def selfWriting : ProgramSource :=
  ⟨[0xA2, 0x06, 0x60, 0x63, 0xF0, 0x55, 0x60, 0x12, 0x12, 0x08], none⟩

def selfWritingCourse : Course :=
  .boot 300 (.ofPlatform "self-writing" .modern) .none ⟨fun _ => 0, 0⟩ selfWriting

theorem effects_confined_selfWriting :
    selfWritingCourse.machine.Confined selfWritingCourse.machine.step.1 ∧
      (selfWritingCourse.follow [.elapse 20000000]).machine.memory.read 0x206 = 0x63 ∧
        (selfWritingCourse.follow [.elapse 20000000]).machine.register 3 = 0x12 ∧
          (selfWritingCourse.follow [.elapse 20000000]).machine.memory.read 0x207 = 0x12 := by
  obtain ⟨confined, kept⟩ := effects_confined
  have ran :
      let course := selfWritingCourse
      let later := (course.follow [.elapse 20000000]).machine
      course.machine.step.2 = .ok .proceed ∧ later.memory.read 0x206 = 0x63 ∧
        later.register 3 = 0x12 ∧
        ((course.moments [.elapse 20000000]).all fun moment =>
          !decide (moment.found.machine.Targets 0x207)) = true := by
    decide +kernel
  obtain ⟨proceeds, written, carried, apart⟩ := ran
  have first : selfWritingCourse.machine.step =
      (selfWritingCourse.machine.step.1, .ok .proceed) := by
    rw [← proceeds]
  have loaded : ((Machine.ofProfile (.ofPlatform "self-writing" .modern) .none
      ⟨fun _ => 0, 0⟩).load selfWriting).2 = .ok 10 := by
    rw [Machine.result_load]
    rfl
  have never : ∀ moment ∈ selfWritingCourse.moments [.elapse 20000000], moment.isStep = true →
      ¬ moment.found.machine.Targets 0x207 := by
    intro moment member _
    have missed := List.all_eq_true.mp apart moment member
    rw [Bool.not_eq_true'] at missed
    exact of_decide_eq_false missed
  have image : Memory.loadedByte selfWriting.bytes 0x207 = 0x12 := by
    decide +kernel
  refine ⟨confined _ _ _ first, written, carried, ?_⟩
  have byte := kept 300 (.ofPlatform "self-writing" .modern) .none ⟨fun _ => 0, 0⟩ selfWriting 10
    [.elapse 20000000] 0x207 loaded never
  unfold selfWritingCourse
  exact byte.trans image

end Chip8
