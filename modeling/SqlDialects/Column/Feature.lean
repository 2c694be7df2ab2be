/-
The features that a data source reports. One of them may be a cap on the lengths of strings: a number is one,
however it is kept; a flag and whatever else is no number are passed over.
-/
import SqlDialects.Column.Suffix
import SqlDialects.Number.Double

namespace SqlDialects

/-- A number that is kept in decimal places, or what stands in for one. -/
inductive DecimalNumber
  | finite (value : Rat)
  | infinite
  | undefined
deriving DecidableEq

/-- What is reported about a feature. -/
inductive FeatureValue
  | flag (b : Bool)
  | integer (n : Int)
  | fraction (value : Rat)
  | double (d : Double)
  | decimal (d : DecimalNumber)
  /-- A text, a list or nothing. -/
  | other
deriving DecidableEq

namespace LengthLimit

def ofDouble : Double → LengthLimit
  | .finite negative m e => .finite (if negative then -Double.magnitude m e else Double.magnitude m e)
  | .infinite _ => .infinite .binary
  | .undefined => .undefined .binary

def ofDecimal : DecimalNumber → LengthLimit
  | .finite value => .finite value
  | .infinite => .infinite .decimal
  | .undefined => .undefined .decimal

end LengthLimit

/-- The cap that is reported, if it is one. -/
def FeatureValue.limit? : FeatureValue → Option LengthLimit
  | integer n => some (.finite n)
  | fraction value => some (.finite value)
  | double d => some (.ofDouble d)
  | decimal d => some (.ofDecimal d)
  | flag _ | other => none

/-- The features of a data source by their names. -/
abbrev SourceFeatures := List (Text × FeatureValue)

/-- The cap on the lengths of strings, if one is reported. -/
def SourceFeatures.lengthLimit? (f : SourceFeatures) : Option LengthLimit :=
  (f.lookup LengthLimit.feature).bind FeatureValue.limit?

/-- The suffix that the column needs in a data source with such features. -/
def ColumnType.suffixUnder (c : ColumnType) (f : SourceFeatures) : Except Error (Option Text) := c.suffix f.lengthLimit?

end SqlDialects
