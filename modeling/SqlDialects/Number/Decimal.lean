/-
Writing doubles with the fewest decimal digits that read back as the same double, the nearest of those
that have so few, and laying the digits out.
-/
import SqlDialects.Number.Double

namespace SqlDialects

/-- A whole number times a power of ten. -/
structure Decimal where
  digits : Nat
  exponent : Int
deriving DecidableEq, Repr

namespace Decimal

/-- Ten to the power of an integer. -/
def powerOfTen (e : Int) : Rat := if 0 ≤ e then mkRat (Nat.pow 10 e.toNat) 1 else mkRat 1 (Nat.pow 10 (-e).toNat)

def value (d : Decimal) : Rat := d.digits * powerOfTen d.exponent

/-! ## The fewest digits -/

/-- The number of places before the point that a positive number needs. -/
def magnitudeOf (x : Rat) (guess : Int) : Int :=
  ([guess, guess + 1, guess + 2].find? fun e => x < powerOfTen e).getD (guess + 3)

/-- Of the two neighbours of a number on a decimal grid those that are kept, the nearer one if both are;
if they are equally near, the even one. -/
def nearestKept? (keep : Rat → Bool) (x : Rat) (exponent : Int) : Option Decimal :=
  let below : Decimal := ⟨(x / powerOfTen exponent).floor.toNat, exponent⟩
  let above : Decimal := ⟨below.digits + 1, exponent⟩
  match keep below.value, keep above.value with
  | false, false => none
  | true, false => some below
  | false, true => some above
  | true, true =>
    let low := x - below.value
    let high := above.value - x
    if low < high || (low = high && below.digits % 2 = 0) then some below else some above

/-- The decimal with the fewest digits that rounds to a positive double. Seventeen digits suffice. -/
def shortest (significand : Nat) (exponent : Int) : Decimal :=
  let x := Double.magnitude significand exponent
  let places := magnitudeOf x ((significand.log2 + exponent) * 30103 / 100000)
  ((List.range' 1 17).findSome? fun (n : Nat) =>
    nearestKept? (Double.roundsTo significand exponent) x (places - n)).getD ⟨0, 0⟩

/-! ## Layout -/

/-- How the digits of a decimal are laid out. -/
structure Layout where
  /-- Where the point may stand before or behind the first digit without an exponent being written. -/
  firstPlace : Int
  lastPlace : Int
  /-- The least number of digits of an exponent. -/
  exponentDigits : Nat
deriving DecidableEq, Repr

def zeros (n : Nat) : Text := List.replicate n '0'

/-- The digits without the zeros at their end, and the place of the point behind the first digit. -/
def significant (d : Decimal) : Text × Int :=
  let all := Nat.toDigits 10 d.digits
  ((all.reverse.dropWhile (· = '0')).reverse, all.length + d.exponent)

/-- The text of a positive decimal. -/
def render (l : Layout) (d : Decimal) : Text :=
  let (digits, place) := d.significant
  if l.firstPlace ≤ place ∧ place ≤ l.lastPlace then
    if place ≤ 0 then "0." ++ zeros (-place).toNat ++ digits
    else if digits.length ≤ place then digits ++ zeros (place.toNat - digits.length) ++ ".0"
    else digits.take place.toNat ++ "." ++ digits.drop place.toNat
  else
    let exponent := Nat.toDigits 10 (place - 1).natAbs
    let fraction := if digits.length = 1 then [] else '.' :: digits.drop 1
    digits.take 1 ++ fraction ++ (if place < 1 then ['e', '-'] else ['e', '+']) ++
      zeros (l.exponentDigits - exponent.length) ++ exponent

end Decimal

end SqlDialects
