import Chip8.Address
import Chip8.Memory.Font

set_option autoImplicit false

/-!
The 4096 bytes of the machine. Single bytes and words are named by an `Address`, so they
wrap at the end of memory; blocks are named by a start and a length, and a block that runs
past the end does not exist.

Main statements: `read_write` and `read_writeAll` say what a read sees after a write.
-/

namespace Chip8

structure Memory where
  bytes : Vector UInt8 4096
  deriving DecidableEq

namespace Memory

def programStart : Address := 0x200

def programCapacity : Nat := 4096 - 0x200

def read (memory : Memory) (address : Address) : UInt8 :=
  memory.bytes[address]

def write (memory : Memory) (address : Address) (value : UInt8) : Memory :=
  ⟨memory.bytes.set address value⟩

/-- The word at an address, its high byte first. -/
def word (memory : Memory) (address : Address) : UInt16 :=
  (memory.read address).toUInt16 <<< 8 ||| (memory.read (address + 1)).toUInt16

def readAll (memory : Memory) (start : Address) (count : Nat) : List UInt8 :=
  (List.range count).map fun position => memory.read (start + Address.ofNat position)

def writeAll (memory : Memory) (start : Address) : List UInt8 → Memory
  | [] => memory
  | value :: rest => (memory.write start value).writeAll (start + 1) rest

/-- A block of memory, if it lies inside. -/
def block? (memory : Memory) (start length : Nat) : Option (List UInt8) :=
  if start + length ≤ 4096 then some (memory.readAll (Address.ofNat start) length) else none

def replaceBlock? (memory : Memory) (start : Nat) (data : List UInt8) : Option Memory :=
  if start + data.length ≤ 4096 then some (memory.writeAll (Address.ofNat start) data) else none

def fillBlock? (memory : Memory) (start length : Nat) (value : UInt8) : Option Memory :=
  if start + length ≤ 4096 then
    memory.replaceBlock? start (List.replicate length value)
  else none

/-- Memory with nothing in it but the two fonts. -/
def blank : Memory :=
  let empty : Memory := ⟨Vector.replicate 4096 0⟩
  (empty.writeAll (Address.ofNat Font.smallStart) Font.small).writeAll
    (Address.ofNat Font.bigStart) Font.big

@[simp] theorem read_write_same (memory : Memory) (address : Address) (value : UInt8) :
    (memory.write address value).read address = value := by
  simp [read, write]

theorem read_write_other (memory : Memory) {address other : Address} (value : UInt8)
    (different : other ≠ address) :
    (memory.write address value).read other = memory.read other := by
  have apart : address.val ≠ other.val := fun equal => different (Fin.ext equal.symm)
  simp [read, write, Vector.getElem_set_ne, apart]

theorem read_write (memory : Memory) (address other : Address) (value : UInt8) :
    (memory.write address value).read other =
      if other = address then value else memory.read other := by
  by_cases same : other = address
  · subst same
    simp
  · rw [read_write_other memory value same, if_neg same]

/-- After a block was written, each of its addresses has its byte, and all other addresses have
what they had. -/
theorem read_writeAll (memory : Memory) (start other : Address) (values : List UInt8)
    (fits : values.length ≤ 4096) :
    (memory.writeAll start values).read other =
      (values[(other - start).val]?).getD (memory.read other) := by
  induction values generalizing memory start with
  | nil => rfl
  | cons value rest later =>
      have fitsRest : rest.length + 1 ≤ 4096 := fits
      rw [writeAll, later _ _ (by omega), read_write]
      by_cases same : other = start
      · have beyond : rest.length ≤ (other - (start + 1)).val := by
          rw [same]
          simp only [Fin.sub_def, Fin.add_def]
          omega
        have first : (other - start).val = 0 := by
          simp [same]
        rw [if_pos same, List.getElem?_eq_none beyond, first]
        rfl
      · have distance : (other - start).val = (other - (start + 1)).val + 1 := by
          have apart : other.val ≠ start.val := fun equal => same (Fin.ext equal)
          simp only [Fin.sub_def, Fin.add_def]
          omega
        rw [if_neg same, distance, List.getElem?_cons_succ]

theorem read_writeAll_at (memory : Memory) (start : Address) {values : List UInt8}
    (fits : values.length ≤ 4096) {offset : Nat} (inside : offset < values.length) :
    (memory.writeAll start values).read (Address.ofNat (start.val + offset)) = values[offset] := by
  rw [read_writeAll memory start _ values fits, Address.val_ofNat_sub start (by omega),
    List.getElem?_eq_getElem inside, Option.getD_some]

theorem read_writeAll_beyond (memory : Memory) {start address : Address}
    {values : List UInt8} (fits : values.length ≤ 4096)
    (beyond : ∀ offset < values.length, address ≠ Address.ofNat (start.val + offset)) :
    (memory.writeAll start values).read address = memory.read address := by
  have outside : values.length ≤ (address - start).val := by
    apply Nat.le_of_not_lt
    intro within
    exact beyond _ within (Address.ofNat_val_sub start address).symm
  rw [read_writeAll memory start _ values fits, List.getElem?_eq_none outside, Option.getD_none]

theorem read_writeAll_block (memory : Memory) {start : Nat} {values : List UInt8}
    (inside : start + values.length ≤ 4096) (address : Address) :
    (memory.writeAll (Address.ofNat start) values).read address =
      if start ≤ address.val then values[address.val - start]?.getD (memory.read address)
      else memory.read address := by
  have place := address.isLt
  rw [read_writeAll memory _ _ values (by omega), Fin.sub_def, Address.val_ofNat]
  dsimp only
  split
  · have distance : (4096 - start % 4096 + address.val) % 4096 = address.val - start := by omega
    rw [distance]
  · have outside : values.length ≤ (4096 - start % 4096 + address.val) % 4096 := by omega
    rw [List.getElem?_eq_none outside, Option.getD_none]

end Memory

end Chip8
