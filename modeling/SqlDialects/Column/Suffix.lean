/-
The suffix that the declaration of a column needs behind the name of its type: a length, or a precision
with or without a scale. A data source may cap the lengths of strings; the cap is looked at only when
there is a length to be capped.
-/
import SqlDialects.Column.Type
import SqlDialects.Text.CaseMapping

namespace SqlDialects

/-! ## Caps on the lengths of strings -/

/-- A number that caps the lengths of strings. -/
inductive LengthLimit
  | finite (value : Rat)
  | infinite (radix : Radix)
  | undefined (radix : Radix)
deriving DecidableEq

namespace LengthLimit

/-- The feature under which a data source reports the cap. -/
def feature : Text := "datasource.max-string-length"

/-- The number without its fraction. -/
def truncated : LengthLimit → Except Error Int
  | finite value => .ok (value.num.tdiv value.den)
  | infinite radix => .error (.infiniteLimit radix)
  | undefined radix => .error (.undefinedLimit radix)

end LengthLimit

namespace ColumnType

/-! ## Pieces -/

/-- The greatest integer of 32 bits. -/
def greatestInt : Int := 0x7FFFFFFF

/-- The greatest integer of 64 bits. -/
def greatestLong : Int := 0x7FFFFFFFFFFFFFFF

/-- The lengths that stand for an unbounded one. -/
def unboundedLengths : List Int := [greatestInt, greatestLong]

/-- The types whose precision and scale are exact. -/
def exactNumerics : List Text := ["DECIMAL", "NUMERIC", "NUMBER"]

def upperName (c : ColumnType) : Text := (c.typeName.getD []).upper

def inParentheses (s : Text) : Text := '(' :: s ++ [')']

/-- Whether the column is just as its user's type says, so that the name alone is enough. -/
def isUserType (c : ColumnType) : Bool :=
  match c.userType with
  | none => false
  | some u =>
    u.scale == c.scale &&
      ((0 < u.precision.getD 0 && u.precision == c.precision) ||
        (0 < u.maxLength && u.maxLength == c.maxLength))

/-! ## Suffixes by kind -/

/-- The length of a string type that carries none in its name. -/
def stringSuffix (c : ColumnType) (limit : Option LengthLimit) : Except Error (Option Text) :=
  if c.upperName.contains '(' || c.maxLength ≤ 0 || unboundedLengths.contains c.maxLength then
    .ok none
  else
    match limit with
    | none => .ok (some (inParentheses (Text.ofInt c.maxLength)))
    | some limit => do
      let cap ← limit.truncated
      return if cap ≤ 0 then none else some (inParentheses (Text.ofInt (min c.maxLength cap)))

/-- The length of a binary type that is not a large object. -/
def binarySuffix (c : ColumnType) : Option Text :=
  if !Text.occurs "LOB" c.upperName && 0 < c.maxLength && c.maxLength < greatestInt then
    some (inParentheses (Text.ofInt c.maxLength))
  else none

/-- The precision of a type of bits, if it is more than one. -/
def bitSuffix (c : ColumnType) : Option Text :=
  if c.upperName = "BIT" ∧ 1 < c.precision.getD 0 then
    some (inParentheses (Text.ofInt (c.precision.getD 0)))
  else none

/-- The precision of an exact numeric type; a length stands in for one that is missing. -/
def exactPrecision (c : ColumnType) : Int :=
  if c.precision.getD 0 = 0 then c.maxLength else c.precision.getD 0

/-- The precision and the scale of an exact numeric type. -/
def numericSuffix (c : ColumnType) : Option Text :=
  if exactNumerics.contains c.upperName then
    match c.scale with
    | none => none
    | some scale =>
      if 0 ≤ scale ∧ 0 ≤ c.exactPrecision ∧ ¬ (scale = 0 ∧ c.exactPrecision = 0) then
        some (inParentheses (Text.ofInt c.exactPrecision ++ "," ++ Text.ofInt scale))
      else none
  else c.bitSuffix

/-- The suffix that the column needs, if it needs one. -/
def suffix (c : ColumnType) (limit : Option LengthLimit) : Except Error (Option Text) :=
  if c.isUserType then .ok none
  else
    match c.kind with
    | .string => c.stringSuffix limit
    | .binary | .content => .ok c.binarySuffix
    | .numeric => .ok c.numericSuffix
    | .boolean => .ok c.bitSuffix
    | .datetime | .other => .ok none

end ColumnType

end SqlDialects
