/-! Numbers written as digits of a base up to sixteen. -/

namespace TaggedConfig.Text

/-- The value of a hexadecimal digit of either case. -/
def hexDigit? (c : Char) : Option Nat :=
  if '0' ≤ c ∧ c ≤ '9' then some (c.toNat - 48)
  else if 'a' ≤ c ∧ c ≤ 'f' then some (c.toNat - 87)
  else if 'A' ≤ c ∧ c ≤ 'F' then some (c.toNat - 55)
  else none

/-- The number that a text of digits of a base writes, which has one digit at least. -/
def ofDigits? (base : Nat) (digits : List Char) : Option Nat :=
  let step (n : Nat) (c : Char) : Option Nat := do
    let value ← hexDigit? c
    if value < base then some (n * base + value) else none
  if digits.isEmpty then none else digits.foldlM step 0

end TaggedConfig.Text
