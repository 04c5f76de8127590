set_option autoImplicit false

/-!
The index types of the machine: addresses of its 4096 byte memory, and the numbers of its
sixteen registers and sixteen keys. Sums of addresses wrap at the end of memory, because
the machine has only twelve address lines.
-/

namespace Chip8

/-- A place in memory; sums wrap at 4096. -/
abbrev Address := Fin 4096

/-- The number of one of the registers V0 to VF. -/
abbrev Register := Fin 16

/-- The number of one of the keys 0 to F of the hexadecimal keypad. -/
abbrev Key := Fin 16

/-- There are addresses, so a numeral names one, and sums can wrap. -/
instance Address.neZero : @NeZero Nat Zero.ofOfNat0 4096 := ⟨Nat.succ_ne_zero 4095⟩

instance Register.neZero : @NeZero Nat Zero.ofOfNat0 16 := ⟨Nat.succ_ne_zero 15⟩

/-- The address named by the low twelve bits of a number. -/
def Address.ofNat (number : Nat) : Address :=
  Fin.ofNat 4096 number

def Address.offset (base : Address) (value : UInt8) : Address :=
  base + Address.ofNat value.toNat

/-- The register named by the low four bits of a number. -/
def Register.ofNat (number : Nat) : Register :=
  Fin.ofNat 16 number

/-- VF, the register that takes carries, borrows and collisions. -/
def flagRegister : Register := 15

def Key.ofLowBits (value : UInt8) : Key :=
  Fin.ofNat 16 value.toNat

def Key.ofByte? (value : UInt8) : Option Key :=
  if inRange : value.toNat < 16 then some ⟨value.toNat, inRange⟩ else none

@[simp] theorem Address.val_ofNat (number : Nat) :
    (Address.ofNat number).val = number % 4096 := rfl

@[simp] theorem Register.val_ofNat (number : Nat) :
    (Register.ofNat number).val = number % 16 := rfl

theorem Address.val_ofNat_sub (start : Address) {offset : Nat} (small : offset < 4096) :
    (Address.ofNat (start.val + offset) - start).val = offset := by
  rw [Fin.sub_def, Address.val_ofNat]
  dsimp only
  omega

theorem Address.ofNat_val_sub (start address : Address) :
    Address.ofNat (start.val + (address - start).val) = address := by
  apply Fin.ext
  rw [Address.val_ofNat, Fin.sub_def]
  dsimp only
  omega

end Chip8
