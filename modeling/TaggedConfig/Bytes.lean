/-! Buffers of a document as lists of bytes.
ASCII characters name the bytes that carry meaning in a document.
-/

namespace TaggedConfig

/-- A buffer, first byte first. -/
abbrev Bytes := List UInt8

/-- The byte of an ASCII character. -/
@[reducible] def byte (c : Char) : UInt8 := c.toUInt8

/-- The bytes of an ASCII text, one for each character. -/
def ascii (s : String) : Bytes := s.toList.map byte

def isDigit (b : UInt8) : Bool := byte '0' ≤ b && b ≤ byte '9'

/-- The value of a hexadecimal digit of either case. -/
def hexValue? (b : UInt8) : Option Nat :=
  if isDigit b then some (b.toNat - 48)
  else if byte 'a' ≤ b && b ≤ byte 'f' then some (b.toNat - 87)
  else if byte 'A' ≤ b && b ≤ byte 'F' then some (b.toNat - 55)
  else none

end TaggedConfig
