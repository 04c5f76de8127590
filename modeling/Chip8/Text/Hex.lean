set_option autoImplicit false

/-!
Hexadecimal text in lower case with a least number of digits, as the messages and listings
of the machine use it.
-/

namespace Chip8.Text

/-- The hexadecimal digits of a number, filled up with zeros on the left. -/
def hex (width number : Nat) : String :=
  let digits := Nat.toDigits 16 number
  String.ofList (List.replicate (width - digits.length) '0' ++ digits)

end Chip8.Text
