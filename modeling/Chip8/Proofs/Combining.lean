import Chip8.Proofs.Effects

set_option autoImplicit false

/-!
Two registers combined, in numbers. `combination` gives for the last digit of 8xyn what becomes of
the values of Vx and Vy; words of eight bits and registers do not occur in it. Both values are read
before anything is written, and the flag is written behind the result. So Vx, Vy and VF may be one
register or two, and still the result is the one of the values that the instruction found, and VF
has the flag.

Main statement: `combined`.
-/

namespace Chip8

/-- What a word 8xyn makes of the values a of Vx and b of Vy: the result for Vx, and what VF is told,
if it is told anything. Below zero and past 255 the numbers come round. -/
def combination (dialect : Dialect) (a b : Nat) : Fin 16 → Option (Nat × Option Nat)
  | 0x0 => some (b, none)
  | 0x1 => some (a ||| b, if dialect.logicClearsFlag then some 0 else none)
  | 0x2 => some (a &&& b, if dialect.logicClearsFlag then some 0 else none)
  | 0x3 => some (a ^^^ b, if dialect.logicClearsFlag then some 0 else none)
  | 0x4 => some ((a + b) % 256, some (if a + b > 255 then 1 else 0))
  | 0x5 => some ((a + 256 - b) % 256, some (if a ≥ b then 1 else 0))
  | 0x6 =>
      let shifted := if dialect.shiftReadsVy then b else a
      some (shifted / 2, some (shifted % 2))
  | 0x7 => some ((b + 256 - a) % 256, some (if b ≥ a then 1 else 0))
  | 0xE =>
      let shifted := if dialect.shiftReadsVy then b else a
      some (2 * shifted % 256, some (shifted / 128))
  | _ => none

/-! ### The operations in numbers -/

namespace Operation

private theorem toNat_condition (condition : Prop) [Decidable condition] :
    (decide condition).toUInt8.toNat = if condition then 1 else 0 := by
  by_cases holds : condition
  · rw [decide_eq_true holds, if_pos holds]
    rfl
  · rw [decide_eq_false holds, if_neg holds]
    rfl

private theorem toNat_difference (left right : UInt8) :
    (left - right).toNat = (left.toNat + 256 - right.toNat) % 256 := by
  have small := right.toNat_lt
  rw [UInt8.toNat_sub]
  congr 1
  omega

private theorem toNat_noBorrow (left right : UInt8) :
    (decide (right ≤ left)).toUInt8.toNat = if left.toNat ≥ right.toNat then 1 else 0 := by
  simp only [UInt8.le_iff_toNat_le]
  exact toNat_condition _

private theorem toNat_halved (value : UInt8) : (value >>> 1).toNat = value.toNat / 2 := by
  rw [UInt8.toNat_shiftRight]
  exact Nat.shiftRight_eq_div_pow value.toNat 1

private theorem toNat_highBit (value : UInt8) : (value >>> 7).toNat = value.toNat / 128 := by
  rw [UInt8.toNat_shiftRight]
  exact Nat.shiftRight_eq_div_pow value.toNat 7

private theorem toNat_lowBit (value : UInt8) : (value &&& 1).toNat = value.toNat % 2 := by
  rw [UInt8.toNat_and]
  exact Nat.and_one_is_mod value.toNat

private theorem toNat_doubled (value : UInt8) : (value <<< 1).toNat = 2 * value.toNat % 256 := by
  rw [UInt8.toNat_shiftLeft]
  change value.toNat <<< 1 % 256 = _
  rw [Nat.shiftLeft_eq, Nat.mul_comm]

variable (dialect : Dialect) (vx vy : UInt8)

private theorem toNat_cleared :
    (if dialect.logicClearsFlag then some 0 else none : Option UInt8).map UInt8.toNat =
      if dialect.logicClearsFlag then some 0 else none := by
  cases dialect.logicClearsFlag <;> rfl

private theorem toNat_shifted :
    (if dialect.shiftReadsVy then vy else vx).toNat =
      if dialect.shiftReadsVy then vy.toNat else vx.toNat :=
  apply_ite UInt8.toNat _ _ _

/-- An operation does to two values what the table has under its digit. -/
theorem combination_code (operation : Operation) :
    combination dialect vx.toNat vy.toNat operation.code =
      some ((operation.apply dialect vx vy).1.toNat,
        (operation.apply dialect vx vy).2.map UInt8.toNat) := by
  cases operation with
  | assign => rfl
  | or => exact congrArg some (Prod.ext (UInt8.toNat_or ..).symm (toNat_cleared dialect).symm)
  | and => exact congrArg some (Prod.ext (UInt8.toNat_and ..).symm (toNat_cleared dialect).symm)
  | xor => exact congrArg some (Prod.ext (UInt8.toNat_xor ..).symm (toNat_cleared dialect).symm)
  | add =>
      have carry := toNat_condition (256 ≤ vx.toNat + vy.toNat)
      exact congrArg some (Prod.ext (UInt8.toNat_add ..).symm (congrArg some carry.symm))
  | subtract =>
      have noBorrow := toNat_noBorrow vx vy
      exact congrArg some (Prod.ext (toNat_difference ..).symm (congrArg some noBorrow.symm))
  | subtractFrom =>
      have noBorrow := toNat_noBorrow vy vx
      exact congrArg some (Prod.ext (toNat_difference ..).symm (congrArg some noBorrow.symm))
  | shiftRight =>
      simp only [apply, Option.map_some, toNat_halved, toNat_lowBit, toNat_shifted]
      rfl
  | shiftLeft =>
      simp only [apply, Option.map_some, toNat_doubled, toNat_highBit, toNat_shifted]
      rfl

/-- The digits for which the table has something are the digits of the operations. -/
theorem exists_of_combination {dialect : Dialect} {a b : Nat} {last : Fin 16}
    {made : Nat × Option Nat} (listed : combination dialect a b last = some made) :
    ∃ operation : Operation, operation.code = last := by
  unfold combination at listed
  split at listed
  · exact ⟨.assign, rfl⟩
  · exact ⟨.or, rfl⟩
  · exact ⟨.and, rfl⟩
  · exact ⟨.xor, rfl⟩
  · exact ⟨.add, rfl⟩
  · exact ⟨.subtract, rfl⟩
  · exact ⟨.shiftRight, rfl⟩
  · exact ⟨.subtractFrom, rfl⟩
  · exact ⟨.shiftLeft, rfl⟩
  · cases listed

end Operation

/-! ### The registers -/

namespace Machine

/-- A machine behind an instruction that has combined two registers: the result and what VF was
told, if it was told anything, are in their places, and nothing else has changed but the program
counter. -/
structure Combined (machine later : Machine) (x : Register) (result : Nat) (flag : Option Nat) :
    Prop where
  /-- Vx has the result, unless it is VF and a flag came behind. -/
  inVx : x ≠ flagRegister ∨ flag = none → (later.register x).toNat = result
  /-- VF has the flag, also if the result was meant for it. -/
  inVf : ∀ told, flag = some told → (later.register flagRegister).toNat = told
  others : ∀ r, r ≠ x → r ≠ flagRegister ∨ flag = none → later.register r = machine.register r
  pc : later.pc = Address.ofNat (machine.pc.val + 2)
  rest : later.SameBut [.registers, .pc] machine

section Combine

variable {machine : Machine} {operation : Operation} {x y : Register} {result flag : UInt8}

theorem combine_of_unflagged
    (applied : operation.apply machine.dialect (machine.register x) (machine.register y) =
      (result, none)) :
    machine.combine operation x y = machine.setRegister x result := by
  unfold combine
  rw [applied]

theorem combine_of_flagged
    (applied : operation.apply machine.dialect (machine.register x) (machine.register y) =
      (result, some flag)) :
    machine.combine operation x y =
      (machine.setRegister x result).setRegister flagRegister flag := by
  unfold combine
  rw [applied]

end Combine

theorem combined_combine (machine : Machine) (operation : Operation) (x y : Register) :
    let made := operation.apply machine.dialect (machine.register x) (machine.register y)
    machine.Combined (machine.advance.combine operation x y) x made.1.toNat
      (made.2.map UInt8.toNat) := by
  have pc : (machine.advance.combine operation x y).pc = Address.ofNat (machine.pc.val + 2) := by
    rw [combine_eq]
    exact Fin.ext rfl
  have rest : (machine.advance.combine operation x y).SameBut [.registers, .pc] machine := by
    rw [combine_eq]
    exact sameBut_of_takeOver rfl
  intro made
  rcases applied : made with ⟨result, none | flag⟩
  · have written : machine.advance.combine operation x y = machine.advance.setRegister x result :=
      combine_of_unflagged applied
    have registers (r : Register) : (machine.advance.combine operation x y).register r =
        if r = x then result else machine.register r := by
      rw [written]
      exact register_setRegister machine.advance x r result
    refine ⟨?_, ?_, ?_, pc, rest⟩
    · intro _
      rw [registers, if_pos rfl]
    · intro told absent
      cases absent
    · intro r other _
      rw [registers, if_neg other]
  · have written : machine.advance.combine operation x y =
        (machine.advance.setRegister x result).setRegister flagRegister flag :=
      combine_of_flagged applied
    have registers (r : Register) : (machine.advance.combine operation x y).register r =
        if r = flagRegister then flag else if r = x then result else machine.register r := by
      rw [written, register_setRegister, register_setRegister]
      rfl
    have flagged : ¬ some flag.toNat = none := Option.some_ne_none flag.toNat
    refine ⟨?_, ?_, ?_, pc, rest⟩
    · intro apart
      rw [registers, if_neg (apart.resolve_right flagged), if_pos rfl]
    · intro told same
      cases same
      rw [registers, if_pos rfl]
    · intro r other apart
      rw [registers, if_neg (apart.resolve_right flagged), if_neg other]

/-- Every word 8xyn that the table has makes of Vx and Vy what the table says, whichever of Vx, Vy
and VF are the same register. -/
theorem combined (machine : Machine) (x y : Register) (last : Fin 16) {result : Nat}
    {flag : Option Nat}
    (word : machine.nextCode = 0x8000 + 0x100 * x.val + 0x10 * y.val + last.val)
    (listed : combination machine.dialect (machine.register x).toNat (machine.register y).toNat
      last = some (result, flag)) :
    machine.step.2 = .ok .proceed ∧ machine.Combined machine.step.1 x result flag := by
  obtain ⟨operation, rfl⟩ := Operation.exists_of_combination listed
  have next : machine.instruction? = some (.combine operation x y) := by
    refine machine.instruction?_eq_some_iff.mpr ⟨?_, rfl⟩
    rw [toNat_nextWord, word]
    rfl
  rw [Operation.combination_code] at listed
  cases listed
  rw [step_of_instruction next]
  exact ⟨rfl, machine.combined_combine operation x y⟩

/-- The next word shifts VF into itself, and the dialect takes the operand from Vy. -/
def selfShifting : Machine :=
  { ofProfile (.ofPlatform "shift" .cosmacVip) .none ⟨fun _ => 0, 0⟩ with
    memory := Memory.blank.writeAll 0x200 [0x8F, 0xFE]
    registers := (Vector.replicate 16 7).set flagRegister 0xC1 }

/-- The result 82 was meant for VF, but the flag came behind. -/
theorem combined_selfShifting :
    selfShifting.nextCode = 0x8FFE ∧
      combination selfShifting.dialect 0xC1 0xC1 0xE = some (0x82, some 1) ∧
      selfShifting.Combined selfShifting.step.1 flagRegister 0x82 (some 1) ∧
      (selfShifting.step.1.register flagRegister).toNat = 1 := by
  have found : selfShifting.nextCode = 0x8FFE ∧
      (selfShifting.register flagRegister).toNat = 0xC1 := by
    decide +kernel
  have listed : combination selfShifting.dialect (selfShifting.register flagRegister).toNat
      (selfShifting.register flagRegister).toNat 0xE = some (0x82, some 1) := by
    rw [found.2]
    rfl
  have combination := (combined selfShifting flagRegister flagRegister 0xE found.1 listed).2
  exact ⟨found.1, rfl, combination, combination.inVf 1 rfl⟩

end Machine
end Chip8
