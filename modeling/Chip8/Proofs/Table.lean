import Chip8.Proofs.Dialects
import Chip8.Proofs.Nesting

set_option autoImplicit false

/-!
The words that are instructions. `Platform.Lists` says by the digits of a word whether a platform
has it. A step succeeds exactly on the words that are listed, and where it fails it leaves the
machine as it was, so that it fails there again and again.

Main statement: `fails_iff_unlisted`.
-/

namespace Chip8

/-- The words that every platform has. -/
def IsCommon (code : Nat) : Prop :=
  -- 00E0, 00EE
  code ∈ [0x00E0, 0x00EE] ∨
  -- 1nnn, 2nnn, 3xkk, 4xkk, 6xkk, 7xkk, Annn, Bnnn, Cxkk, Dxyn
  code / 0x1000 ∈ [0x1, 0x2, 0x3, 0x4, 0x6, 0x7, 0xA, 0xB, 0xC, 0xD] ∨
  -- 5xy0, 9xy0
  (code / 0x1000 ∈ [0x5, 0x9] ∧ code % 0x10 = 0x0) ∨
  -- 8xy0 to 8xy7, 8xyE
  (code / 0x1000 = 0x8 ∧ code % 0x10 ∈ [0x0, 0x1, 0x2, 0x3, 0x4, 0x5, 0x6, 0x7, 0xE]) ∨
  -- Ex9E, ExA1
  (code / 0x1000 = 0xE ∧ code % 0x100 ∈ [0x9E, 0xA1]) ∨
  -- Fx07, Fx0A, Fx15, Fx18, Fx1E, Fx29, Fx33, Fx55, Fx65
  code / 0x1000 = 0xF ∧ code % 0x100 ∈ [0x07, 0x0A, 0x15, 0x18, 0x1E, 0x29, 0x33, 0x55, 0x65]

instance (code : Nat) : Decidable (IsCommon code) :=
  inferInstanceAs (Decidable (_ ∨ _ ∨ _ ∨ _ ∨ _ ∨ _))

/-- The words that a platform has: the common ones, and those behind the gate that it opens. -/
def Platform.Lists (platform : Platform) (code : Nat) : Prop :=
  IsCommon code ∨ (platform = .hybridVip ∧ Gate.tallScreen.Guards code) ∨
    platform = .superChip ∧ Gate.extendedSet.Guards code

instance (platform : Platform) (code : Nat) : Decidable (platform.Lists code) :=
  inferInstanceAs (Decidable (_ ∨ _ ∨ _))

/-! ### Words put together from their digits -/

namespace Instruction

variable {code family : Nat}

theorem addressCode_of_family (high : code / 0x1000 = family) :
    addressCode family (Address.ofNat code) = code := by
  unfold addressCode
  rw [Address.val_ofNat]
  omega

theorem byteCode_of_low {byte : UInt8} (high : code / 0x1000 = family)
    (low : code % 0x100 = byte.toNat) : byteCode family (digit code 0x100) byte = code := by
  unfold byteCode
  rw [val_digit]
  omega

theorem byteCode_of_family (high : code / 0x1000 = family) :
    byteCode family (digit code 0x100) (UInt8.ofNat code) = code :=
  byteCode_of_low high UInt8.toNat_ofNat'.symm

theorem registersCode_of_last {last : Fin 16} (high : code / 0x1000 = family)
    (low : code % 0x10 = last.val) :
    registersCode family (digit code 0x100) (digit code 0x10) last = code := by
  unfold registersCode
  rw [val_digit, val_digit]
  omega

/-! ### The table and the instructions -/

theorem isCommon_of_family (high : code / 0x1000 = family)
    (listed : family ∈ [0x1, 0x2, 0x3, 0x4, 0x6, 0x7, 0xA, 0xB, 0xC, 0xD]) : IsCommon code := by
  rw [← high] at listed
  exact .inr (.inl listed)

theorem isCommon_pair {family : Nat} (x y : Register) (listed : family ∈ [0x5, 0x9]) :
    IsCommon (registersCode family x y 0) := by
  obtain ⟨high, -, -, -, last⟩ := registersCode_parts family x y 0
  refine .inr (.inr (.inl ⟨?_, last⟩))
  rw [high]
  exact listed

theorem isCommon_combine (operation : Operation) (x y : Register) :
    IsCommon (registersCode 0x8 x y operation.code) := by
  obtain ⟨high, -, -, -, last⟩ := registersCode_parts 0x8 x y operation.code
  refine .inr (.inr (.inr (.inl ⟨high, ?_⟩)))
  rw [last]
  cases operation <;> decide

theorem isCommon_key (x : Register) {byte : UInt8} (listed : byte.toNat ∈ [0x9E, 0xA1]) :
    IsCommon (byteCode 0xE x byte) := by
  obtain ⟨high, -, -, low⟩ := byteCode_parts 0xE x byte
  refine .inr (.inr (.inr (.inr (.inl ⟨high, ?_⟩))))
  rw [low]
  exact listed

theorem isCommon_transfer (x : Register) {byte : UInt8}
    (listed : byte.toNat ∈ [0x07, 0x0A, 0x15, 0x18, 0x1E, 0x29, 0x33, 0x55, 0x65]) :
    IsCommon (byteCode 0xF x byte) := by
  obtain ⟨high, -, -, low⟩ := byteCode_parts 0xF x byte
  refine .inr (.inr (.inr (.inr (.inr ⟨high, ?_⟩))))
  rw [low]
  exact listed

theorem isCommon_test (test : Test) : IsCommon test.code := by
  cases test with
  | isByte x byte => exact isCommon_of_family (byteCode_parts 0x3 x byte).1 (by decide)
  | isNotByte x byte => exact isCommon_of_family (byteCode_parts 0x4 x byte).1 (by decide)
  | isEqual x y => exact isCommon_pair x y (by decide)
  | isDifferent x y => exact isCommon_pair x y (by decide)
  | keyDown x => exact isCommon_key x (by decide)
  | keyUp x => exact isCommon_key x (by decide)

/-- The words of a platform's instructions are listed. -/
theorem lists_of_isOn {platform : Platform} {instruction : Instruction}
    (present : instruction.isOn platform = true) : platform.Lists instruction.code := by
  have superChip {instruction : Instruction} (has : platform.hasExtendedSet = true)
      (guarded : Gate.extendedSet.Guards instruction.code) : platform.Lists instruction.code :=
    .inr (.inr ⟨of_decide_eq_true has, guarded⟩)
  cases instruction with
  | clear | ret => exact .inl (by decide)
  | tallScreen => exact .inr (.inl ⟨of_decide_eq_true present, rfl⟩)
  | scrollDown rows =>
      have scroll : (0x00C0 + rows.val) / 0x10 = 0x00C := by omega
      exact superChip present (.inl scroll)
  | scrollRight | scrollLeft | exit | lowScreen | highScreen =>
      exact superChip present (by decide)
  | bigDigit x => exact superChip present (guards_transfer x (by decide))
  | saveFlags x => exact superChip present (guards_transfer x (by decide))
  | restoreFlags x => exact superChip present (guards_transfer x (by decide))
  | skip test => exact .inl (isCommon_test test)
  | combine operation x y => exact .inl (isCommon_combine operation x y)
  | jump target => exact .inl (isCommon_of_family (addressCode_parts 0x1 target).1 (by decide))
  | call target => exact .inl (isCommon_of_family (addressCode_parts 0x2 target).1 (by decide))
  | setIndex target => exact .inl (isCommon_of_family (addressCode_parts 0xA target).1 (by decide))
  | jumpIndexed target =>
      exact .inl (isCommon_of_family (addressCode_parts 0xB target).1 (by decide))
  | setByte x byte => exact .inl (isCommon_of_family (byteCode_parts 0x6 x byte).1 (by decide))
  | addByte x byte => exact .inl (isCommon_of_family (byteCode_parts 0x7 x byte).1 (by decide))
  | random x mask => exact .inl (isCommon_of_family (byteCode_parts 0xC x mask).1 (by decide))
  | draw x y rows =>
      exact .inl (isCommon_of_family (registersCode_parts 0xD x y rows).1 (by decide))
  | readDelay x | awaitKey x | setDelay x | setSound x | addIndex x | smallDigit x | decimal x
  | store x | fetch x =>
      exact .inl (isCommon_transfer x (by decide))

/-- An instruction with a given word that every platform has. -/
theorem exists_of_isCommon (listed : IsCommon code) :
    ∃ instruction : Instruction, instruction.code = code ∧
      ∀ platform, instruction.isOn platform = true := by
  unfold IsCommon at listed
  simp only [List.mem_cons, List.not_mem_nil, or_false] at listed
  rcases listed with
    system | family | ⟨high, last⟩ | ⟨high, last⟩ | ⟨high, low⟩ | ⟨high, low⟩
  · rcases system with rfl | rfl
    · exact ⟨.clear, rfl, fun _ => rfl⟩
    · exact ⟨.ret, rfl, fun _ => rfl⟩
  · rcases family with high | high | high | high | high | high | high | high | high | high
    · exact ⟨.jump _, addressCode_of_family high, fun _ => rfl⟩
    · exact ⟨.call _, addressCode_of_family high, fun _ => rfl⟩
    · exact ⟨.skip (.isByte _ _), byteCode_of_family high, fun _ => rfl⟩
    · exact ⟨.skip (.isNotByte _ _), byteCode_of_family high, fun _ => rfl⟩
    · exact ⟨.setByte _ _, byteCode_of_family high, fun _ => rfl⟩
    · exact ⟨.addByte _ _, byteCode_of_family high, fun _ => rfl⟩
    · exact ⟨.setIndex _, addressCode_of_family high, fun _ => rfl⟩
    · exact ⟨.jumpIndexed _, addressCode_of_family high, fun _ => rfl⟩
    · exact ⟨.random _ _, byteCode_of_family high, fun _ => rfl⟩
    · exact ⟨.draw _ _ (Fin.ofNat 16 code), registersCode_of_last high rfl, fun _ => rfl⟩
  · rcases high with high | high
    · exact ⟨.skip (.isEqual _ _), registersCode_of_last high last, fun _ => rfl⟩
    · exact ⟨.skip (.isDifferent _ _), registersCode_of_last high last, fun _ => rfl⟩
  · rcases last with last | last | last | last | last | last | last | last | last
    · exact ⟨.combine .assign _ _, registersCode_of_last high last, fun _ => rfl⟩
    · exact ⟨.combine .or _ _, registersCode_of_last high last, fun _ => rfl⟩
    · exact ⟨.combine .and _ _, registersCode_of_last high last, fun _ => rfl⟩
    · exact ⟨.combine .xor _ _, registersCode_of_last high last, fun _ => rfl⟩
    · exact ⟨.combine .add _ _, registersCode_of_last high last, fun _ => rfl⟩
    · exact ⟨.combine .subtract _ _, registersCode_of_last high last, fun _ => rfl⟩
    · exact ⟨.combine .shiftRight _ _, registersCode_of_last high last, fun _ => rfl⟩
    · exact ⟨.combine .subtractFrom _ _, registersCode_of_last high last, fun _ => rfl⟩
    · exact ⟨.combine .shiftLeft _ _, registersCode_of_last high last, fun _ => rfl⟩
  · rcases low with low | low
    · exact ⟨.skip (.keyDown _), byteCode_of_low high low, fun _ => rfl⟩
    · exact ⟨.skip (.keyUp _), byteCode_of_low high low, fun _ => rfl⟩
  · rcases low with low | low | low | low | low | low | low | low | low
    · exact ⟨.readDelay _, byteCode_of_low high low, fun _ => rfl⟩
    · exact ⟨.awaitKey _, byteCode_of_low high low, fun _ => rfl⟩
    · exact ⟨.setDelay _, byteCode_of_low high low, fun _ => rfl⟩
    · exact ⟨.setSound _, byteCode_of_low high low, fun _ => rfl⟩
    · exact ⟨.addIndex _, byteCode_of_low high low, fun _ => rfl⟩
    · exact ⟨.smallDigit _, byteCode_of_low high low, fun _ => rfl⟩
    · exact ⟨.decimal _, byteCode_of_low high low, fun _ => rfl⟩
    · exact ⟨.store _, byteCode_of_low high low, fun _ => rfl⟩
    · exact ⟨.fetch _, byteCode_of_low high low, fun _ => rfl⟩

/-- The words that are listed are words of the platform's instructions. -/
theorem exists_of_lists {platform : Platform} (listed : platform.Lists code) :
    ∃ instruction : Instruction, instruction.code = code ∧ instruction.isOn platform = true := by
  rcases listed with common | ⟨rfl, rfl⟩ | ⟨rfl, scroll | ⟨least, most⟩ | ⟨high, low⟩⟩
  · obtain ⟨instruction, word, present⟩ := exists_of_isCommon common
    exact ⟨instruction, word, present platform⟩
  · exact ⟨.tallScreen, rfl, rfl⟩
  · refine ⟨.scrollDown (Fin.ofNat 16 code), ?_, rfl⟩
    rw [Instruction.code, Fin.val_ofNat]
    omega
  · have named : code = 0xFB ∨ code = 0xFC ∨ code = 0xFD ∨ code = 0xFE ∨ code = 0xFF := by omega
    rcases named with rfl | rfl | rfl | rfl | rfl
    · exact ⟨.scrollRight, rfl, rfl⟩
    · exact ⟨.scrollLeft, rfl, rfl⟩
    · exact ⟨.exit, rfl, rfl⟩
    · exact ⟨.lowScreen, rfl, rfl⟩
    · exact ⟨.highScreen, rfl, rfl⟩
  · rcases low with low | low | low
    · exact ⟨.bigDigit _, byteCode_of_low high low, rfl⟩
    · exact ⟨.saveFlags _, byteCode_of_low high low, rfl⟩
    · exact ⟨.restoreFlags _, byteCode_of_low high low, rfl⟩

end Instruction

namespace Machine

variable {machine : Machine}

theorem isSome_instruction?_iff :
    machine.instruction?.isSome = true ↔ machine.platform.Lists machine.nextWord.toNat := by
  rw [Option.isSome_iff_exists]
  constructor
  · rintro ⟨instruction, next⟩
    obtain ⟨word, present⟩ := machine.instruction?_eq_some_iff.mp next
    rw [← word]
    exact Instruction.lists_of_isOn present
  · intro listed
    obtain ⟨instruction, word⟩ := Instruction.exists_of_lists listed
    exact ⟨instruction, machine.instruction?_eq_some_iff.mpr word⟩

/-- The number that the two bytes at the program counter make; behind the last byte of memory
comes the first. -/
def nextCode (machine : Machine) : Nat :=
  0x100 * (machine.memory.read machine.pc).toNat +
    (machine.memory.read (Address.ofNat (machine.pc.val + 1))).toNat

/-- The register x of the next word. -/
def nextX (machine : Machine) : Register :=
  Instruction.digit machine.nextCode 0x100

theorem toNat_nextWord (machine : Machine) : machine.nextWord.toNat = machine.nextCode := by
  have next : Address.ofNat (machine.pc.val + 1) = machine.pc + 1 := Fin.ext rfl
  have high := (machine.memory.read machine.pc).toNat_lt
  have low := (machine.memory.read (machine.pc + 1)).toNat_lt
  rw [nextCode, next, nextWord, Memory.word, UInt16.toNat_or, UInt16.toNat_shiftLeft,
    UInt8.toNat_toUInt16, UInt8.toNat_toUInt16]
  have shifted : (machine.memory.read machine.pc).toNat <<< ((8 : UInt16).toNat % 16) % 2 ^ 16 =
      (machine.memory.read machine.pc).toNat <<< 8 := by
    change (machine.memory.read machine.pc).toNat <<< 8 % 2 ^ 16 = _
    rw [Nat.shiftLeft_eq]
    omega
  rw [shifted, ← Nat.shiftLeft_add_eq_or_of_lt low, Nat.shiftLeft_eq]
  omega

theorem afterSteps_of_no_instruction (next : machine.instruction? = none) (steps : Nat) :
    machine.afterSteps steps = machine := by
  induction steps with
  | zero => rfl
  | succ steps ih => rw [afterSteps, ih, step_of_no_instruction next]

/-- A step fails exactly on the words that the platform does not list. The fault names the place
and the word, and because the machine stays as it was, every further step fails alike. -/
theorem fails_iff_unlisted (machine : Machine) :
    ((∃ fault, machine.step.2 = .error fault) ↔
        ¬ machine.platform.Lists machine.nextCode) ∧
      ∀ fault, machine.step.2 = .error fault →
        fault = .unknownOpcode machine.pc.val (UInt16.ofNat machine.nextCode) ∧
          ∀ steps, machine.afterSteps steps = machine ∧
            (machine.afterSteps steps).step = (machine, .error fault) := by
  rw [← toNat_nextWord, ← isSome_instruction?_iff, UInt16.ofNat_toNat]
  cases next : machine.instruction? with
  | none =>
      have fails := step_of_no_instruction next
      rw [fails]
      refine ⟨iff_of_true ⟨_, rfl⟩ Bool.false_ne_true, ?_⟩
      rintro fault same
      cases same
      refine ⟨rfl, ?_⟩
      intro steps
      rw [afterSteps_of_no_instruction next]
      exact ⟨rfl, fails⟩
  | some instruction =>
      rw [step_of_instruction next]
      refine ⟨iff_of_false ?_ (not_not_intro rfl), ?_⟩
      · rintro ⟨fault, same⟩
        cases same
      · intro fault same
        cases same

/-- The program counter stands on the last byte of memory, and the first one is of the font. -/
def atEnd : Machine :=
  { ofProfile (.ofPlatform "at the end" .superChip) .none ⟨fun _ => 0, 0⟩ with
    pc := 0xFFF
    tone := some .start }

theorem fails_iff_unlisted_atEnd :
    ¬ atEnd.platform.Lists 0x00F0 ∧
      ∀ steps, (atEnd.afterSteps steps).step = (atEnd, .error (.unknownOpcode 0xFFF 0x00F0)) := by
  have word : atEnd.nextCode = 0x00F0 := by
    decide +kernel
  have unlisted : ¬ atEnd.platform.Lists 0x00F0 := by
    decide
  obtain ⟨fails, named⟩ := fails_iff_unlisted atEnd
  rw [word] at fails named
  obtain ⟨fault, failed⟩ := fails.mpr unlisted
  obtain ⟨rfl, again⟩ := named fault failed
  exact ⟨unlisted, fun steps => (again steps).2⟩

end Machine
end Chip8
