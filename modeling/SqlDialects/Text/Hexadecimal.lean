/-
Numbers written with hexadecimal digits, in lower case and with a fixed number of places.
-/
import SqlDialects.Text.Basic

namespace SqlDialects

/-- The digit of a number below sixteen. -/
def hexDigit (n : Nat) : Char := if n < 10 then Char.ofNat (0x30 + n) else Char.ofNat (0x57 + n)

/-- The last `places` hexadecimal digits of a number. -/
def Text.hexadecimal : (places : Nat) → Nat → Text
  | 0, _ => []
  | places + 1, n => hexadecimal places (n / 16) ++ [hexDigit (n % 16)]

end SqlDialects
