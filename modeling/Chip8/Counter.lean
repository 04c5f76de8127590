set_option autoImplicit false

/-!
Numbers kept in a fixed number of bits. A counter that would have to go past its last number has
run over and tells nothing any more: a program that checks its arithmetic breaks off there, and one
that does not begins again at zero. So what is said about a count is said while it fits.
-/

namespace Chip8

inductive Counter (limit : Nat) where
  | holds (number : Fin limit)
  | ranOver
  deriving DecidableEq

/-- A counter of 32 bits. -/
abbrev Counter32 : Type := Counter 4294967296

/-- A counter of 64 bits. -/
abbrev Counter64 : Type := Counter 18446744073709551616

namespace Counter

variable {limit : Nat}

def ofNat (number : Nat) : Counter limit :=
  if fits : number < limit then .holds ⟨number, fits⟩ else .ranOver

def add : Counter limit → Counter limit → Counter limit
  | .holds first, .holds second => ofNat (first.val + second.val)
  | _, _ => .ranOver

instance : Add (Counter limit) := ⟨add⟩

def number? : Counter limit → Option Nat
  | .holds number => some number.val
  | .ranOver => none

theorem ofNat_of_lt {number : Nat} (fits : number < limit) :
    ofNat number = .holds (⟨number, fits⟩ : Fin limit) :=
  dif_pos fits

theorem ofNat_of_le {number : Nat} (past : limit ≤ number) :
    (ofNat number : Counter limit) = .ranOver :=
  dif_neg (Nat.not_lt.mpr past)

theorem number?_ofNat {number : Nat} (fits : number < limit) :
    (ofNat number : Counter limit).number? = some number := by
  rw [ofNat_of_lt fits]
  rfl

theorem holds_add_holds (first second : Fin limit) :
    (.holds first + .holds second : Counter limit) = ofNat (first.val + second.val) :=
  rfl

theorem add_ranOver (counter : Counter limit) : counter + .ranOver = .ranOver := by
  cases counter <;> rfl

theorem ranOver_add (counter : Counter limit) : .ranOver + counter = .ranOver :=
  rfl

/-- Counting on from one number by another. -/
theorem ofNat_add (first second : Nat) :
    (ofNat (first + second) : Counter limit) = ofNat first + ofNat second := by
  by_cases fits : first < limit ∧ second < limit
  · rw [ofNat_of_lt fits.1, ofNat_of_lt fits.2, holds_add_holds]
  · have past : limit ≤ first + second := by omega
    rw [ofNat_of_le past]
    by_cases firstFits : first < limit
    · have secondPast : limit ≤ second := by omega
      rw [ofNat_of_le secondPast, add_ranOver]
    · rw [ofNat_of_le (Nat.not_lt.mp firstFits), ranOver_add]

theorem exists_ofNat (counter : Counter limit) : ∃ number, counter = ofNat number := by
  cases counter with
  | holds number => exact ⟨number.val, (ofNat_of_lt number.isLt).symm⟩
  | ranOver => exact ⟨limit, (ofNat_of_le (Nat.le_refl limit)).symm⟩

theorem add_assoc (first second third : Counter limit) :
    first + second + third = first + (second + third) := by
  obtain ⟨first, rfl⟩ := first.exists_ofNat
  obtain ⟨second, rfl⟩ := second.exists_ofNat
  obtain ⟨third, rfl⟩ := third.exists_ofNat
  rw [← ofNat_add, ← ofNat_add, ← ofNat_add, ← ofNat_add, Nat.add_assoc]

theorem add_zero (counter : Counter limit) : counter + ofNat 0 = counter := by
  obtain ⟨number, rfl⟩ := counter.exists_ofNat
  rw [← ofNat_add, Nat.add_zero]

theorem zero_add (counter : Counter limit) : ofNat 0 + counter = counter := by
  obtain ⟨number, rfl⟩ := counter.exists_ofNat
  rw [← ofNat_add, Nat.zero_add]

end Counter

end Chip8
