import Chip8.Instruction.Decode

set_option autoImplicit false

/-!
The word of an instruction, written down from the instruction alone. Reading and writing
words are inverse: `ofCode?_code` says that every instruction is read back from its word, and
`code_of_ofCode?` that no other word is read as it.
-/

namespace Chip8

def addressCode (family : Nat) (target : Address) : Nat :=
  0x1000 * family + target.val

def byteCode (family : Nat) (x : Register) (byte : UInt8) : Nat :=
  0x1000 * family + 0x100 * x.val + byte.toNat

def registersCode (family : Nat) (x y : Register) (last : Fin 16) : Nat :=
  0x1000 * family + 0x100 * x.val + 0x10 * y.val + last.val

/-- The last digit of 8xyn. -/
def Operation.code : Operation → Fin 16
  | .assign => 0x0
  | .or => 0x1
  | .and => 0x2
  | .xor => 0x3
  | .add => 0x4
  | .subtract => 0x5
  | .shiftRight => 0x6
  | .subtractFrom => 0x7
  | .shiftLeft => 0xE

def Test.code : Test → Nat
  | .isByte x byte => byteCode 0x3 x byte
  | .isNotByte x byte => byteCode 0x4 x byte
  | .isEqual x y => registersCode 0x5 x y 0
  | .isDifferent x y => registersCode 0x9 x y 0
  | .keyDown x => byteCode 0xE x 0x9E
  | .keyUp x => byteCode 0xE x 0xA1

namespace Instruction

def code : Instruction → Nat
  | .clear => 0x00E0
  | .ret => 0x00EE
  | .tallScreen => 0x0230
  | .scrollDown rows => 0x00C0 + rows.val
  | .scrollRight => 0x00FB
  | .scrollLeft => 0x00FC
  | .exit => 0x00FD
  | .lowScreen => 0x00FE
  | .highScreen => 0x00FF
  | .jump target => addressCode 0x1 target
  | .call target => addressCode 0x2 target
  | .skip test => test.code
  | .setByte x byte => byteCode 0x6 x byte
  | .addByte x byte => byteCode 0x7 x byte
  | .combine operation x y => registersCode 0x8 x y operation.code
  | .setIndex target => addressCode 0xA target
  | .jumpIndexed target => addressCode 0xB target
  | .random x mask => byteCode 0xC x mask
  | .draw x y rows => registersCode 0xD x y rows
  | .readDelay x => byteCode 0xF x 0x07
  | .awaitKey x => byteCode 0xF x 0x0A
  | .setDelay x => byteCode 0xF x 0x15
  | .setSound x => byteCode 0xF x 0x18
  | .addIndex x => byteCode 0xF x 0x1E
  | .smallDigit x => byteCode 0xF x 0x29
  | .bigDigit x => byteCode 0xF x 0x30
  | .decimal x => byteCode 0xF x 0x33
  | .store x => byteCode 0xF x 0x55
  | .fetch x => byteCode 0xF x 0x65
  | .saveFlags x => byteCode 0xF x 0x75
  | .restoreFlags x => byteCode 0xF x 0x85

/-! ### The parts of a word -/

theorem val_digit (code weight : Nat) : (digit code weight).val = code / weight % 16 := rfl

theorem addressCode_parts (family : Nat) (target : Address) :
    addressCode family target / 4096 = family ∧
      Address.ofNat (addressCode family target) = target := by
  constructor
  · unfold addressCode
    omega
  · apply Fin.ext
    rw [Address.val_ofNat]
    unfold addressCode
    omega

theorem byteCode_parts (family : Nat) (x : Register) (byte : UInt8) :
    byteCode family x byte / 4096 = family ∧ digit (byteCode family x byte) 0x100 = x ∧
      UInt8.ofNat (byteCode family x byte) = byte ∧
      byteCode family x byte % 256 = byte.toNat := by
  have small := byte.toNat_lt
  have low : byteCode family x byte % 256 = byte.toNat := by
    unfold byteCode
    omega
  refine ⟨?_, ?_, ?_, low⟩
  · unfold byteCode
    omega
  · apply Fin.ext
    rw [val_digit]
    unfold byteCode
    omega
  · apply UInt8.toNat_inj.mp
    rw [UInt8.toNat_ofNat']
    exact low

theorem registersCode_parts (family : Nat) (x y : Register) (last : Fin 16) :
    registersCode family x y last / 4096 = family ∧
      digit (registersCode family x y last) 0x100 = x ∧
      digit (registersCode family x y last) 0x10 = y ∧
      digit (registersCode family x y last) 1 = last ∧
      registersCode family x y last % 16 = last.val := by
  refine ⟨?_, Fin.ext ?_, Fin.ext ?_, Fin.ext ?_, ?_⟩ <;>
    simp only [val_digit, registersCode] <;> omega

private theorem operation?_code (operation : Operation) :
    operation? operation.code.val = some operation := by
  cases operation <;> rfl

private theorem code_of_operation? {last : Nat} {operation : Operation}
    (named : operation? last = some operation) : operation.code.val = last := by
  unfold operation? at named
  split at named <;> cases named <;> rfl

/-! ### Reading what was written -/

private theorem ofCode?_transfer (x : Register) (byte : UInt8) :
    ofCode? (byteCode 0xF x byte) = ofTransferCode? x byte.toNat := by
  obtain ⟨high, register, _, low⟩ := byteCode_parts 0xF x byte
  simp only [ofCode?, high, register, low]

private theorem ofCode?_key (x : Register) (byte : UInt8) :
    ofCode? (byteCode 0xE x byte) = ofKeyCode? x byte.toNat := by
  obtain ⟨high, register, _, low⟩ := byteCode_parts 0xE x byte
  simp only [ofCode?, high, register, low]

private theorem ofCode?_test (test : Test) : ofCode? test.code = some (.skip test) := by
  cases test with
  | isByte x byte =>
      obtain ⟨high, register, value, _⟩ := byteCode_parts 0x3 x byte
      simp only [Test.code, ofCode?, high, register, value]
  | isNotByte x byte =>
      obtain ⟨high, register, value, _⟩ := byteCode_parts 0x4 x byte
      simp only [Test.code, ofCode?, high, register, value]
  | isEqual x y =>
      obtain ⟨high, first, second, _, last⟩ := registersCode_parts 0x5 x y 0
      simp only [Test.code, ofCode?, high, first, second, last]
      rfl
  | isDifferent x y =>
      obtain ⟨high, first, second, _, last⟩ := registersCode_parts 0x9 x y 0
      simp only [Test.code, ofCode?, high, first, second, last]
      rfl
  | keyDown x => exact ofCode?_key x 0x9E
  | keyUp x => exact ofCode?_key x 0xA1

/-- Every instruction is read back from its word. -/
theorem ofCode?_code (instruction : Instruction) :
    ofCode? instruction.code = some instruction := by
  cases instruction with
  | clear => rfl
  | ret => rfl
  | tallScreen => rfl
  | scrollDown rows =>
      have family : (0x00C0 + rows.val) / 4096 = 0 := by omega
      have scroll : (0x00C0 + rows.val) / 16 = 0x00C := by omega
      have last : digit (0x00C0 + rows.val) 1 = rows := by
        apply Fin.ext
        rw [val_digit]
        omega
      simp only [code, ofCode?, family, ofSystemCode?, if_pos scroll, last]
  | scrollRight => rfl
  | scrollLeft => rfl
  | exit => rfl
  | lowScreen => rfl
  | highScreen => rfl
  | jump target =>
      obtain ⟨high, low⟩ := addressCode_parts 0x1 target
      simp only [code, ofCode?, high, low]
  | call target =>
      obtain ⟨high, low⟩ := addressCode_parts 0x2 target
      simp only [code, ofCode?, high, low]
  | skip test => exact ofCode?_test test
  | setByte x byte =>
      obtain ⟨high, register, value, _⟩ := byteCode_parts 0x6 x byte
      simp only [code, ofCode?, high, register, value]
  | addByte x byte =>
      obtain ⟨high, register, value, _⟩ := byteCode_parts 0x7 x byte
      simp only [code, ofCode?, high, register, value]
  | combine operation x y =>
      obtain ⟨high, first, second, _, last⟩ := registersCode_parts 0x8 x y operation.code
      simp only [code, ofCode?, high, first, second, last, operation?_code, Option.map_some]
  | setIndex target =>
      obtain ⟨high, low⟩ := addressCode_parts 0xA target
      simp only [code, ofCode?, high, low]
  | jumpIndexed target =>
      obtain ⟨high, low⟩ := addressCode_parts 0xB target
      simp only [code, ofCode?, high, low]
  | random x mask =>
      obtain ⟨high, register, value, _⟩ := byteCode_parts 0xC x mask
      simp only [code, ofCode?, high, register, value]
  | draw x y rows =>
      obtain ⟨high, first, second, last, _⟩ := registersCode_parts 0xD x y rows
      simp only [code, ofCode?, high, first, second, last]
  | readDelay x => exact ofCode?_transfer x 0x07
  | awaitKey x => exact ofCode?_transfer x 0x0A
  | setDelay x => exact ofCode?_transfer x 0x15
  | setSound x => exact ofCode?_transfer x 0x18
  | addIndex x => exact ofCode?_transfer x 0x1E
  | smallDigit x => exact ofCode?_transfer x 0x29
  | bigDigit x => exact ofCode?_transfer x 0x30
  | decimal x => exact ofCode?_transfer x 0x33
  | store x => exact ofCode?_transfer x 0x55
  | fetch x => exact ofCode?_transfer x 0x65
  | saveFlags x => exact ofCode?_transfer x 0x75
  | restoreFlags x => exact ofCode?_transfer x 0x85

/-! ### Writing what was read -/

private theorem code_of_ofSystemCode? {word : Nat} {instruction : Instruction}
    (found : ofSystemCode? word = some instruction) : instruction.code = word := by
  unfold ofSystemCode? at found
  split at found
  · cases found
    simp only [code, val_digit]
    omega
  · split at found <;> cases found <;> rfl

private theorem code_of_ofKeyCode? {word low : Nat} {instruction : Instruction}
    (high : word / 4096 = 0xE) (rest : word % 256 = low)
    (found : ofKeyCode? (digit word 0x100) low = some instruction) : instruction.code = word := by
  unfold ofKeyCode? at found
  split at found <;> cases found <;>
    simp only [code, Test.code, byteCode, val_digit, UInt8.toNat_ofNat] <;> omega

private theorem code_of_ofTransferCode? {word low : Nat} {instruction : Instruction}
    (high : word / 4096 = 0xF) (rest : word % 256 = low)
    (found : ofTransferCode? (digit word 0x100) low = some instruction) :
    instruction.code = word := by
  unfold ofTransferCode? at found
  split at found <;> cases found <;>
    simp only [code, byteCode, val_digit, UInt8.toNat_ofNat] <;> omega

theorem code_of_ofCode? {word : Nat} {instruction : Instruction}
    (found : ofCode? word = some instruction) : instruction.code = word := by
  unfold ofCode? at found
  simp only at found
  split at found
  case h_1 => exact code_of_ofSystemCode? found
  case h_6 | h_10 =>
    split at found
    · cases found
      simp only [code, Test.code, registersCode, val_digit]
      omega
    · cases found
  case h_9 =>
    obtain ⟨operation, named, rfl⟩ := Option.map_eq_some_iff.mp found
    have last := code_of_operation? named
    simp only [code, registersCode, val_digit, last]
    omega
  case h_15 high => exact code_of_ofKeyCode? high rfl found
  case h_16 high => exact code_of_ofTransferCode? high rfl found
  case h_17 => cases found
  all_goals
    cases found
    simp only [code, Test.code, addressCode, byteCode, registersCode, val_digit,
      Address.val_ofNat, UInt8.toNat_ofNat']
    omega

theorem ofCode?_eq_some_iff {word : Nat} {instruction : Instruction} :
    ofCode? word = some instruction ↔ instruction.code = word := by
  constructor
  · exact code_of_ofCode?
  · intro same
    rw [← same]
    exact ofCode?_code instruction

end Instruction

end Chip8
