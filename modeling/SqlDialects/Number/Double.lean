/-
Binary numbers of double precision, taken apart: a sign, a whole number and a power of two. The numbers
that round to a double lie between the middles of the gaps on its two sides.
-/
import SqlDialects.Text.Basic

namespace SqlDialects

inductive Double
  /-- The whole number times a power of two. -/
  | finite (negative : Bool) (significand : Nat) (exponent : Int)
  | infinite (negative : Bool)
  | undefined
deriving DecidableEq, Repr

namespace Double

/-- The number of bits of a significand that are written down. -/
def fractionBits : Nat := 52

/-- The least significand of the doubles that are not closest to zero. -/
def leastFull : Nat := 1 <<< fractionBits

/-- The exponent of the doubles that are closest to zero. -/
def leastExponent : Int := -1074

/-- The double that a pattern of 64 bits stands for. -/
def ofBits (bits : Nat) : Double :=
  let negative := (bits >>> 63) % 2 == 1
  let exponent := (bits >>> fractionBits) % 0x800
  let fraction := bits % leastFull
  if exponent = 0x7FF then if fraction = 0 then infinite negative else undefined
  else if exponent = 0 then finite negative fraction leastExponent
  else finite negative (leastFull + fraction) (leastExponent + exponent - 1)

/-- Two to the power of an integer. -/
def powerOfTwo (e : Int) : Rat := if 0 ≤ e then mkRat (1 <<< e.toNat) 1 else mkRat 1 (1 <<< (-e).toNat)

/-- The exact value of a double without its sign. -/
def magnitude (significand : Nat) (exponent : Int) : Rat := significand * powerOfTwo exponent

/-- The exact value of a finite double. -/
def value? : Double → Option Rat
  | finite negative m e => some (if negative then -magnitude m e else magnitude m e)
  | infinite _ | undefined => none

/-! ## What rounds to a double -/

/-- The middle of the gap below; the gap is half as wide where the exponent changes. -/
def lowerMiddle (significand : Nat) (exponent : Int) : Rat :=
  if significand = leastFull ∧ exponent ≠ leastExponent then
    magnitude (4 * significand - 1) (exponent - 2)
  else magnitude (2 * significand - 1) (exponent - 1)

/-- The middle of the gap above. -/
def upperMiddle (significand : Nat) (exponent : Int) : Rat :=
  magnitude (2 * significand + 1) (exponent - 1)

/-- Whether a number rounds to the double; the middles go to the even significand. -/
def roundsTo (significand : Nat) (exponent : Int) (x : Rat) : Bool :=
  let low := lowerMiddle significand exponent
  let high := upperMiddle significand exponent
  if significand % 2 = 0 then low ≤ x && x ≤ high else low < x && x < high

end Double

end SqlDialects
